import Because.Proofs.Comparison.Basic
import Because.Proofs.Orderly.Basic
import Because.Proofs.Orderly.Course

/-!
# Later sessions

Nothing that a session holds is ever given up: scopes stay where they hang and objects stay of
their kind, classes keep all but their methods, and functions stay as they are. In the scopes that
are no objects only the names that are open there at the time get other values, and only classes
whose methods are open get other tables. What denoted what it seems to still does so later on.
-/

namespace Because

namespace Session

/-- Names in scopes. -/
abbrev Places := ScopeId → String → Prop

/-- The second session has come out of the first one, and in the scopes of the first one that are no
objects only what is open may be bound to something else. -/
structure Grows (opened : Places) (s s' : Session) : Prop where
  scopes : s.scopes.size ≤ s'.scopes.size
  parent : ∀ i : Nat, i < s.scopes.size → s'.scopes.parent? i = s.scopes.parent? i
  kind : ∀ i : Nat, i < s.scopes.size → s'.kind? i = s.kind? i
  classes : s.classes.size ≤ s'.classes.size
  classAt : ∀ id : Nat, id < s.classes.size →
    s'.classAt id = { s.classAt id with methods := (s'.classAt id).methods }
  native : ∀ id : Nat, id < s.classes.size → s'.nativeBuiltin? id = s.nativeBuiltin? id
  impl : ∀ id : Nat, s.classes.size ≤ id → id < s'.classes.size →
    s.scopes.size ≤ (s'.classAt id).implScope
  functions : s.functions.size ≤ s'.functions.size
  functionAt : ∀ f : Nat, f < s.functions.size → s'.functionAt f = s.functionAt f
  binds : ∀ i name, s.scopes.binds i name = true → s'.scopes.binds i name = true
  spared : ∀ i : Nat, i < s.scopes.size → (s.scopes.scopeAt i).tag = none →
    (∀ name, ¬ opened i name) → (s'.scopes.scopeAt i).bindings = (s.scopes.scopeAt i).bindings
  locals : ∀ (i : Nat) name, i < s.scopes.size → (s.scopes.scopeAt i).tag = none →
    ¬ opened i name → s'.scopes.local? i name = s.scopes.local? i name
  tables : ∀ id : Nat, id < s.classes.size → (∀ name, ¬ opened (s.classAt id).implScope name) →
    (s'.classAt id).methods = (s.classAt id).methods

/-- The second session has come out of the first one by changes, and the same scopes have been
entered and the same calls are in progress. -/
structure Later (opened : Places) (s s' : Session) : Prop where
  grows : s.Grows opened s'
  same : s.SameStacks s'
  course : s.Course s'

variable {names : String → Prop} {o o' : Places} {s s' s'' : Session}

namespace Grows

/-- A session has grown out of itself. -/
lemma refl (o : Places) (s : Session) : s.Grows o s where
  scopes := Nat.le_refl _
  parent _ _ := rfl
  kind _ _ := rfl
  classes := Nat.le_refl _
  classAt _ _ := rfl
  native _ _ := rfl
  impl _ le lt := absurd lt (Nat.not_lt.2 le)
  functions := Nat.le_refl _
  functionAt _ _ := rfl
  binds _ _ bound := bound
  spared _ _ _ _ := rfl
  locals _ _ _ _ _ := rfl
  tables _ _ _ := rfl

/-- A class keeps the scope of its methods. -/
lemma implScope (h : s.Grows o s') {id : Nat} (lt : id < s.classes.size) :
    (s'.classAt id).implScope = (s.classAt id).implScope := by
  rw [h.classAt id lt]

/-- A class keeps its parent. -/
lemma parentClass (h : s.Grows o s') {id : Nat} (lt : id < s.classes.size) :
    (s'.classAt id).parent = (s.classAt id).parent := by
  rw [h.classAt id lt]

/-- An object keeps its class. -/
lemma tag (h : s.Grows o s') {i : Nat} (lt : i < s.scopes.size) :
    (s'.scopes.scopeAt i).tag.map ObjectTag.classId =
      (s.scopes.scopeAt i).tag.map ObjectTag.classId := by
  have kind := congrArg (Option.map Prod.fst) (h.kind i lt)
  simpa only [kind?, Option.map_map, Function.comp_def] using kind

/-- A scope that is no object becomes none. -/
lemma untagged (h : s.Grows o s') {i : Nat} (lt : i < s.scopes.size)
    (untagged : (s.scopes.scopeAt i).tag = none) : (s'.scopes.scopeAt i).tag = none := by
  have tag := h.tag lt
  rwa [untagged, Option.map_none, Option.map_eq_none_iff] at tag

/-- An old scope that holds the methods of a class has always done so. -/
lemma isImpl (h : s.Grows o s') {i : Nat} (lt : i < s.scopes.size) (impl : s'.IsImpl i) :
    s.IsImpl i := by
  obtain ⟨id, made, rfl⟩ := impl
  obtain old | new := Nat.lt_or_ge id s.classes.size
  · exact ⟨id, old, (h.implScope old).symm⟩
  · exact absurd lt (Nat.not_lt.2 (h.impl id new made))

/-- A scope that holds the methods of a class goes on to do so. -/
lemma isImpl_of (h : s.Grows o s') {i : ScopeId} (impl : s.IsImpl i) : s'.IsImpl i := by
  obtain ⟨id, made, rfl⟩ := impl
  exact ⟨id, Nat.lt_of_lt_of_le made h.classes, h.implScope made⟩

/-- An ordinary scope stays one. -/
lemma ordinary (h : s.Grows o s') {i : ScopeId} (ordinary : s.Ordinary i) : s'.Ordinary i where
  made := Nat.lt_of_lt_of_le ordinary.made h.scopes
  untagged := h.untagged ordinary.made ordinary.untagged
  noImpl impl := ordinary.noImpl (h.isImpl ordinary.made impl)

/-- What is open later on has to be open from the beginning, unless it is new. -/
lemma trans (made : ∀ id : Nat, id < s.classes.size → (s.classAt id).implScope < s.scopes.size)
    (h : s.Grows o s') (h' : s'.Grows o' s'')
    (narrow : ∀ (i : Nat) name, o' i name → i < s.scopes.size → o i name) : s.Grows o s'' where
  scopes := Nat.le_trans h.scopes h'.scopes
  parent i lt := (h'.parent i (Nat.lt_of_lt_of_le lt h.scopes)).trans (h.parent i lt)
  kind i lt := (h'.kind i (Nat.lt_of_lt_of_le lt h.scopes)).trans (h.kind i lt)
  classes := Nat.le_trans h.classes h'.classes
  classAt id lt := by
    rw [h'.classAt id (Nat.lt_of_lt_of_le lt h.classes), h.classAt id lt]
  native id lt := (h'.native id (Nat.lt_of_lt_of_le lt h.classes)).trans (h.native id lt)
  impl id le lt := by
    obtain old | new := Nat.lt_or_ge id s'.classes.size
    · rw [h'.implScope old]
      exact h.impl id le old
    · exact Nat.le_trans h.scopes (h'.impl id new lt)
  functions := Nat.le_trans h.functions h'.functions
  functionAt f lt :=
    (h'.functionAt f (Nat.lt_of_lt_of_le lt h.functions)).trans (h.functionAt f lt)
  binds i name bound := h'.binds i name (h.binds i name bound)
  spared i lt untagged shut := by
    rw [h'.spared i (Nat.lt_of_lt_of_le lt h.scopes) (h.untagged lt untagged)
      fun name opens => shut name (narrow i name opens lt)]
    exact h.spared i lt untagged shut
  locals i name lt untagged shut := by
    rw [h'.locals i name (Nat.lt_of_lt_of_le lt h.scopes) (h.untagged lt untagged)
      fun opens => shut (narrow i name opens lt)]
    exact h.locals i name lt untagged shut
  tables id lt shut := by
    rw [h'.tables id (Nat.lt_of_lt_of_le lt h.classes), h.tables id lt shut]
    rw [h.implScope lt]
    exact fun name opens => shut name (narrow _ name opens (made id lt))

/-- More may be open. -/
lemma widen (h : s.Grows o s') (wider : ∀ i name, o i name → o' i name) : s.Grows o' s' where
  __ := h
  spared i lt untagged shut :=
    h.spared i lt untagged fun name opens => shut name (wider i name opens)
  locals i name lt untagged shut :=
    h.locals i name lt untagged fun opens => shut (wider i name opens)
  tables id lt shut := h.tables id lt fun name opens => shut name (wider _ name opens)

/-! ## Walks -/

/-- The scopes above an old scope stay the same. -/
lemma chain (h : s.Grows o s') (rooted : s.Rooted) (rooted' : s'.Rooted) {i : Nat}
    (lt : i < s.scopes.size) : s'.scopes.chain i = s.scopes.chain i := by
  induction i using Nat.strongRecOn with
  | ind i ih =>
    rw [rooted'.chain_eq, rooted.chain_eq, h.parent i lt]
    cases e : s.scopes.parent? i with
    | none => rfl
    | some p =>
      have older := rooted.scopes i p e
      exact congrArg (i :: ·) (ih p older (Nat.lt_trans older lt))

/-- The classes above an old class stay the same. -/
lemma lineage (h : s.Grows o s') (rooted : s.Rooted) (rooted' : s'.Rooted) {id : Nat}
    (lt : id < s.classes.size) : s'.lineage id = s.lineage id := by
  induction id using rooted.class_induction with
  | step id ih =>
    rw [rooted'.lineage_eq, rooted.lineage_eq, h.parentClass lt]
    cases e : (s.classAt id).parent with
    | none => rfl
    | some p => exact congrArg (id :: ·) (ih p e (Nat.lt_trans (rooted.classes id p e) lt))

end Grows

/-! ## What fits later on -/

/-- Only scopes that have been made are objects. -/
lemma made_of_kind {i : ScopeId} {kind : ClassId × Option Builtin} (known : s.kind? i = some kind) :
    Nat.lt i s.scopes.size := by
  apply Nat.lt_of_not_le
  intro beyond
  have absent : s.scopes.scopeAt i = {} := by
    rw [Scopes.scopeAt, Array.getElem?_eq_none beyond, Option.getD_none]
  rw [kind?, absent] at known
  cases known

end Session

open Session

variable {names : String → Prop} {o : Places} {s s' : Session}

/-- A value that fits goes on to fit. -/
lemma Value.Fits.grows {value : Value} (fits : value.Fits s) (h : s.Grows o s') :
    value.Fits s' := by
  cases value with
  | object i =>
    obtain ⟨id, lt, kind⟩ := fits
    refine ⟨id, Nat.lt_of_lt_of_le lt h.classes, ?_⟩
    rw [h.kind i (made_of_kind kind), h.native id lt, kind]
  | classRef id => exact Nat.lt_of_lt_of_le fits h.classes
  | functionRef f =>
    refine ⟨Nat.lt_of_lt_of_le fits.1 h.functions, ?_⟩
    rw [h.functionAt f fits.1]
    exact fits.2
  | _ => trivial

/-- Values that all fit go on to fit. -/
lemma Justified.AllFit.grows {infos : List Justified} (fit : AllFit s infos)
    (h : s.Grows o s') : AllFit s' infos :=
  fun info mem => (fit info mem).grows h

/-- A state that fits goes on to fit. -/
lemma Handle.Fits.grows {handle : Handle} (fits : handle.Fits s) (h : s.Grows o s') :
    handle.Fits s' := by
  cases handle with
  | list => exact Justified.AllFit.grows fits h
  | dict => exact fun entry mem => ⟨(fits entry mem).1.grows h, (fits entry mem).2.grows h⟩
  | _ => trivial

/-- A flow that fits goes on to fit. -/
lemma Flow.Fits.grows {flow : Flow} (fits : flow.Fits s) (h : s.Grows o s') :
    flow.Fits s' := by
  cases flow with
  | normal => trivial
  | returned => exact Value.Fits.grows fits h

namespace Session

/-- Objects keep their class. -/
lemma Grows.classOf (h : s.Grows o s') {value : Value} {id : ClassId}
    (class_ : s.classOf? value = some id) : s'.classOf? value = some id := by
  cases value with
  | object i =>
    have found : (s.scopes.scopeAt i).tag.map ObjectTag.classId = some id := class_
    obtain ⟨tag, tagged, -⟩ := Option.map_eq_some_iff.1 found
    have kind : s.kind? i = some (tag.classId, tag.handle.map Handle.builtin) := by
      rw [kind?, tagged]
      rfl
    exact (h.tag (made_of_kind kind)).trans found
  | _ => cases class_

/-- The class of a fitting object has been made. -/
lemma class_lt_of_fits {value : Value} {id : ClassId} (fits : value.Fits s)
    (class_ : s.classOf? value = some id) : Nat.lt id s.classes.size := by
  cases value with
  | object i =>
    obtain ⟨id', lt, kind⟩ := fits
    cases (classOf_of_kind kind).symm.trans class_
    exact lt
  | _ => cases class_

/-- An object of a class stays one. -/
lemma InstanceOf.grows {value : Value} {id : ClassId} (instance_ : s.InstanceOf value id)
    (fits : value.Fits s) (rooted : s.Rooted) (rooted' : s'.Rooted) (h : s.Grows o s') :
    s'.InstanceOf value id := by
  obtain ⟨actual, class_, mem⟩ := instance_
  refine ⟨actual, h.classOf class_, ?_⟩
  rw [h.lineage rooted rooted' (class_lt_of_fits fits class_)]
  exact mem

/-! ## Sessions that are orderly later on -/

namespace Orderly

variable (h : s.Orderly names)

include h

/-- The scope of the methods of a class has been made. -/
lemma implScope_lt (id : Nat) (lt : id < s.classes.size) :
    (s.classAt id).implScope < s.scopes.size :=
  (h.classes id lt).made

/-- A class stays as it is as long as neither its methods nor those of its parent are open. -/
lemma class_grows (grows : s.Grows o s') {id : Nat}
    (lt : id < s.classes.size) (shut : ∀ name, ¬ o (s.classAt id).implScope name)
    (above : ∀ p, (s.classAt id).parent = some p → ∀ name, ¬ o (s.classAt p).implScope name) :
    s'.ClassOrderly id := by
  have old := h.classes id lt
  have same : s'.classAt id = s.classAt id := by
    rw [grows.classAt id lt, grows.tables id lt shut]
  have parent (p : Nat) (e : (s.classAt id).parent = some p) : s'.classAt p = s.classAt p := by
    have lt' := Nat.lt_trans (h.rooted.classes id p e) lt
    rw [grows.classAt p lt', grows.tables p lt' (above p e)]
  have held (method : String) : s'.scopes.local? (s.classAt id).implScope method =
      s.scopes.local? (s.classAt id).implScope method := by
    unfold Scopes.local?
    rw [grows.spared _ old.made old.untagged shut]
  refine ⟨?_, ?_, ?_, ?_, ?_, ?_⟩
  · rw [same]
    exact Nat.lt_of_lt_of_le old.made grows.scopes
  · rw [same]
    exact grows.untagged old.made old.untagged
  · rw [same, old.native]
    congr 1
    cases e : (s.classAt id).parent with
    | none => rfl
    | some p => simp only [Option.bind_some, parent p e]
  · rw [same]
    exact old.topmost
  · intro method info found
    rw [same, held] at found
    obtain ⟨f, value, lt', owner⟩ := old.own method info found
    exact ⟨f, value, Nat.lt_of_lt_of_le lt' grows.functions, by rw [grows.functionAt f lt', owner]⟩
  · intro method
    simp only [ownMethod?, same, held]
    rw [old.table]
    congr 1
    cases e : (s.classAt id).parent with
    | none => rfl
    | some p => simp only [Option.bind_some, parent p e]

/-- As long as no methods are open, all classes stay as they are. -/
lemma classes_grow (grows : s.Grows o s')
    (shut : ∀ id : Nat, id < s.classes.size → ∀ name, ¬ o (s.classAt id).implScope name) (id : Nat)
    (lt : id < s.classes.size) : s'.ClassOrderly id :=
  h.class_grows grows lt (shut id lt) fun p parent =>
    shut p (Nat.lt_trans (h.rooted.classes id p parent) lt)

/-- A session stays orderly if all that is new in it is. -/
lemma grow (grows : s.Grows o s') (rooted : s'.Rooted)
    (below : ∀ i : Nat, s.scopes.size ≤ i → i < s'.scopes.size →
      ∃ p, s'.scopes.parent? i = some p ∧ (¬ s'.IsImpl i → s'.Ordinary p))
    (entered : ∀ i ∈ s'.entered, i ∈ s.entered ∨ s'.Ordinary i)
    (bindings : ∀ i name info, ¬ s'.IsImpl i → s'.scopes.local? i name = some info →
      s.scopes.local? i name = some info ∨ info.value.Fits s')
    (handles : ∀ i tag handle, (s'.scopes.scopeAt i).tag = some tag → tag.handle = some handle →
      (s.scopes.scopeAt i).tag = some tag ∨ handle.Fits s')
    (classes : ∀ id : Nat, id < s'.classes.size → s'.ClassOrderly id)
    (apart : ∀ id id' : Nat, id < id' → s.classes.size ≤ id' → id' < s'.classes.size →
      (s'.classAt id).implScope ≠ (s'.classAt id').implScope)
    (frames : ∀ frame ∈ s'.calls.frames, frame ∈ s.calls.frames ∨
      ∀ owner : Nat, frame.owner = some owner → owner < s'.classes.size)
    (functions : ∀ f : Nat, s.functions.size ≤ f → f < s'.functions.size →
      (s'.functionAt f).Tidy names ∧
        ∀ owner : Nat, (s'.functionAt f).owner = some owner → owner < s'.classes.size) :
    s'.Orderly names where
  rooted := rooted
  global := grows.ordinary h.global
  -- What was there before is as it was, and of what is new the hypotheses speak.
  root i lt orphan := by
    obtain old | new := Nat.lt_or_ge i s.scopes.size
    · rw [grows.parent i old] at orphan
      exact h.root i old orphan
    · obtain ⟨p, parent, -⟩ := below i new lt
      rw [parent] at orphan
      cases orphan
  above i p noImpl parent := by
    obtain old | new := Nat.lt_or_ge i s.scopes.size
    · rw [grows.parent i old] at parent
      exact grows.ordinary (h.above i p (fun impl => noImpl (grows.isImpl_of impl)) parent)
    · obtain lt | beyond := Nat.lt_or_ge i s'.scopes.size
      · obtain ⟨p', parent', ordinary⟩ := below i new lt
        cases parent'.symm.trans parent
        exact ordinary noImpl
      · rw [Scopes.parent?, Scopes.scopeAt, Array.getElem?_eq_none beyond] at parent
        cases parent
  entered i mem := (entered i mem).elim (fun old => grows.ordinary (h.entered i old)) id
  bindings i name info noImpl found :=
    (bindings i name info noImpl found).elim
      (fun old => (h.bindings i name info (fun impl => noImpl (grows.isImpl_of impl)) old).grows
        grows) id
  handles i tag handle tagged holds :=
    (handles i tag handle tagged holds).elim
      (fun old => (h.handles i tag handle old holds).grows grows) id
  classes := classes
  apart := by
    have ne (id id' : Nat) (older : id < id') (lt : id' < s'.classes.size) :
        (s'.classAt id).implScope ≠ (s'.classAt id').implScope := by
      obtain old | new := Nat.lt_or_ge id' s.classes.size
      · intro same
        have old' := Nat.lt_trans older old
        rw [grows.implScope old, grows.implScope old'] at same
        exact absurd (h.apart id id' old' old same) (Nat.ne_of_lt older)
      · exact apart id id' older new lt
    intro id id' lt lt' same
    obtain older | rfl | newer := Nat.lt_trichotomy id id'
    · exact absurd same (ne id id' older lt')
    · rfl
    · exact absurd same.symm (ne id' id newer lt)
  frames frame mem owner owns :=
    (frames frame mem).elim
      (fun old => Nat.lt_of_lt_of_le (h.frames frame old owner owns) grows.classes)
      fun new => new owner owns
  owners f owner lt owns := by
    obtain old | new := Nat.lt_or_ge f s.functions.size
    · rw [grows.functionAt f old] at owns
      exact Nat.lt_of_lt_of_le (h.owners f owner old owns) grows.classes
    · exact (functions f new lt).2 owner owns
  tidy f lt := by
    obtain old | new := Nat.lt_or_ge f s.functions.size
    · rw [grows.functionAt f old]
      exact h.tidy f old
    · exact (functions f new lt).1

end Orderly

namespace Later

/-- A session is later than itself, if nothing has happened. -/
lemma refl (o : Places) (s : Session) : s.Later o s :=
  ⟨.refl o s, .refl s, .refl⟩

/-- Further places may be open. -/
lemma widen {o' : Places} (h : s.Later o s') (wider : ∀ i name, o i name → o' i name) :
    s.Later o' s' :=
  ⟨h.grows.widen wider, h.same, h.course⟩

/-- What is later than something later is later. -/
lemma trans {s'' : Session} (orderly : s.Orderly names) (h : s.Later o s')
    (h' : s'.Later o s'') : s.Later o s'' :=
  ⟨h.grows.trans orderly.implScope_lt h'.grows fun _ _ opens _ => opens, h.same.trans h'.same,
    h.course.trans h'.course⟩

/-- The current scope stays the same. -/
lemma currentScope (h : s.Later o s') : s'.currentScope = s.currentScope := by
  unfold Session.currentScope
  rw [h.same.entered]

/-- The same variables are visible. -/
lemma visible (orderly : s.Orderly names) (orderly' : s'.Orderly names) (h : s.Later o s') :
    s'.visible = s.visible := by
  unfold Session.visible
  rw [h.currentScope]
  exact h.grows.chain orderly.rooted orderly'.rooted orderly.currentScope.made

end Later

end Session

end Because
