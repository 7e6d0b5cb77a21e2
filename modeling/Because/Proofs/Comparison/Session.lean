import Because.Eval.Input
import Because.Proofs.Comparison.Basic

/-!
# What corresponding sessions answer

Corresponding sessions hold the same values, up to the numbers of reasons. So they show values in
the same texts, find the same classes and functions, and see corresponding variables; and whatever
they answer lies in the census.
-/

namespace Because

/-- Two answers are related, or both are the same error, which is one of `F`. -/
inductive Answers {ε α β : Type} (F : ε → Prop) (R : α → β → Prop) :
    Except ε α → Except ε β → Prop where
  | ok {x y} : R x y → Answers F R (.ok x) (.ok y)
  | error {e} : F e → Answers F R (.error e) (.error e)

/-- Two equal answers are related if their result is related to itself. -/
lemma Answers.refl {ε α : Type} {F : ε → Prop} {R : α → α → Prop} (r : Except ε α)
    (error : ∀ e, r = .error e → F e) (ok : ∀ x, r = .ok x → R x x) : Answers F R r r := by
  cases r with
  | error e => exact .error (error e rfl)
  | ok x => exact .ok (ok x rfl)

/-- A fault that comes neither from the graph of reasons nor from the limit on calls. -/
def Fault.Plain : Fault → Prop
  | .graph _ | .recursionLimit _ => False
  | _ => True

namespace Comparison

variable {C : Comparison} {c : Census} {s t : Session}

/-- Results with a reason correspond if they are the same but for the reason. -/
def Reasoned {α : Type} (C : Comparison) (c : Census) (x y : α × ReasonId) : Prop :=
  y = (x.1, C.rename x.2) ∧ c.reason x.2

/-- The same answer, which has a property. -/
def SameIn {α : Type} (p : Census → α → Prop) (c : Census) (x y : α) : Prop := y = x ∧ p c x

/-- Related answers, or the same plain fault. -/
abbrev Attempt {α β : Type} (R : Census → α → β → Prop) (c : Census) :
    Except Fault α → Except Fault β → Prop :=
  Answers Fault.Plain (R c)

/-- An optional answer that lies in the census is related to its renaming. -/
lemma rel_map {α β : Type} {R : α → β → Prop} {f : α → β} {o : Option α}
    (h : ∀ x ∈ o, R x (f x)) : Option.Rel R o (o.map f) := by
  cases o with
  | none => exact .none
  | some x => exact .some (h x rfl)

namespace Pair

/-- The scope that was entered last is the same. -/
lemma currentScope (h : C.Pair c s t) : SameIn Census.scope c s.currentScope t.currentScope := by
  refine ⟨by simp only [Session.currentScope, h.entered], ?_⟩
  have entered := h.known.entered
  unfold Session.currentScope
  cases e : s.entered with
  | nil => exact h.known.global
  | cons scope rest => exact entered scope (by simp [e])

/-! ## Classes and functions -/

/-- Classes have the same definitions. -/
lemma classAt (h : C.Pair c s t) (id : ClassId) :
    SameIn ClassDef.In c (s.classAt id) (t.classAt id) := by
  refine ⟨by simp only [Session.classAt, h.classes], ?_⟩
  unfold Session.classAt
  cases e : s.classes[id]? with
  | none => exact ⟨nofun, h.known.global, nofun, nofun⟩
  | some classDef => exact h.known.classes classDef (Array.mem_of_getElem? e)

/-- Functions have the same definitions, whose bodies may be compared. -/
lemma functionAt (h : C.Pair c s t) (id : FunctionId) :
    SameIn FunctionDef.In c (s.functionAt id) (t.functionAt id) ∧
      ∀ stmt ∈ (s.functionAt id).body, C.body stmt := by
  simp only [SameIn, Session.functionAt, h.functions, true_and]
  cases e : s.functions[id]? with
  | none => exact ⟨nofun, nofun⟩
  | some function =>
    have mem := Array.mem_of_getElem? e
    exact ⟨h.known.functions function mem, h.bodies function mem⟩

/-- A name denotes the same class. -/
lemma lookupClass? (h : C.Pair c s t) (name : String) :
    Maybe (SameIn Census.classId) c (s.lookupClass? name) (t.lookupClass? name) := by
  simp only [Session.lookupClass?, Session.global?, h.scopes, Scopes.local?_rename]
  cases e : s.scopes.local? Session.globalScope name with
  | none => exact .none
  | some info =>
    obtain ⟨value, why⟩ := info
    have known := (h.known.scopes.local? e).value
    cases value with
    | classRef id => exact .some ⟨rfl, known⟩
    | _ => exact .none

/-- Classes have the same lineages. -/
lemma lineageFrom (h : C.Pair c s t) (steps : Nat) (id : ClassId) :
    t.lineageFrom steps id = s.lineageFrom steps id := by
  induction steps generalizing id with
  | zero => rfl
  | succ steps ih =>
    simp only [Session.lineageFrom, (h.classAt id).1]
    cases (s.classAt id).parent with
    | none => rfl
    | some parent => simp only [ih]

/-- Objects of a class have the same fields. -/
lemma allFields (h : C.Pair c s t) (id : ClassId) : t.allFields id = s.allFields id := by
  simp only [Session.allFields, Session.lineage, h.lineageFrom, (h.classAt _).1]

/-- The same built-in class stands above a class. -/
lemma nativeBuiltin? (h : C.Pair c s t) (id : ClassId) :
    t.nativeBuiltin? id = s.nativeBuiltin? id := by
  simp only [Session.nativeBuiltin?, (h.classAt _).1]

/-- The function that is running belongs to the same class. -/
lemma owner? (h : C.Pair c s t) :
    Maybe (SameIn Census.classId) c s.calls.owner? t.calls.owner? := by
  have frames := h.known.frames
  simp only [CallStack.owner?, h.frames]
  cases e : s.calls.frames with
  | nil => exact .none
  | cons frame rest =>
    have known := frames frame (by simp [e])
    simp only [List.head?_cons, Option.bind_some]
    cases o : frame.owner with
    | none => exact .none
    | some owner => exact .some ⟨rfl, known owner o⟩

/-! ## Objects -/

/-- Objects have the same tags, up to the numbers of reasons. -/
lemma tag? (h : C.Pair c s t) (value : Value) :
    t.tag? value = (s.tag? value).map (ObjectTag.rename C.rename) := by
  simp only [Session.tag?, h.scopes, Scopes.scopeAt_rename]
  cases value.scope? <;> rfl

/-- The tags of objects lie in the census. -/
lemma tag_in (h : C.Pair c s t) {value : Value} {tag : ObjectTag}
    (found : s.tag? value = some tag) : tag.In c := by
  obtain ⟨scope, _, tagged⟩ := Option.bind_eq_some_iff.1 found
  exact (h.known.scopes scope).tag tag tagged

/-- Objects have the same classes. -/
lemma classOf? (h : C.Pair c s t) (value : Value) :
    Maybe (SameIn Census.classId) c (s.classOf? value) (t.classOf? value) := by
  simp only [Session.classOf?, h.tag?]
  cases e : s.tag? value with
  | none => exact .none
  | some tag => exact .some ⟨rfl, (h.tag_in e).classId⟩

/-- Objects have the same built-in states, up to the numbers of reasons. -/
lemma handle?_rename (h : C.Pair c s t) (value : Value) :
    t.handle? value = (s.handle? value).map (Handle.rename C.rename) := by
  simp only [Session.handle?, h.tag?]
  cases s.tag? value <;> rfl

/-- The built-in states of objects lie in the census. -/
lemma handle_in (h : C.Pair c s t) {value : Value} {handle : Handle}
    (found : s.handle? value = some handle) : handle.In c := by
  obtain ⟨tag, tagged, held⟩ := Option.bind_eq_some_iff.1 found
  exact (h.tag_in tagged).handle handle held

/-- Corresponding objects have corresponding built-in states. -/
lemma handle? (h : C.Pair c s t) (value : Value) :
    Maybe C.Handles c (s.handle? value) (t.handle? value) := by
  rw [h.handle?_rename]
  exact rel_map fun handle found => ⟨rfl, h.handle_in found⟩

/-- Corresponding objects hold the same text, for corresponding reasons. -/
lemma textOf? (h : C.Pair c s t) (value : Value) :
    Maybe C.Reasoned c (s.textOf? value) (t.textOf? value) := by
  unfold Session.textOf?
  rw [h.handle?_rename]
  cases e : s.handle? value with
  | none => exact .none
  | some handle =>
    have known := h.handle_in e
    cases handle with
    | text => exact .some ⟨rfl, known⟩
    | _ => exact .none

/-- Corresponding objects hold the same truth value, for corresponding reasons. -/
lemma truthOf? (h : C.Pair c s t) (value : Value) :
    Maybe C.Reasoned c (s.truthOf? value) (t.truthOf? value) := by
  unfold Session.truthOf?
  rw [h.handle?_rename]
  cases e : s.handle? value with
  | none => exact .none
  | some handle =>
    have known := h.handle_in e
    cases handle with
    | truth => exact .some ⟨rfl, known⟩
    | _ => exact .none

/-- Corresponding objects hold the same number, for corresponding reasons. -/
lemma numberOf? (h : C.Pair c s t) (value : Value) :
    Maybe C.Reasoned c (s.numberOf? value) (t.numberOf? value) := by
  unfold Session.numberOf?
  rw [h.handle?_rename]
  cases e : s.handle? value with
  | none => exact .none
  | some handle =>
    have known := h.handle_in e
    cases handle with
    | number => exact .some ⟨rfl, known⟩
    | _ => exact .none

/-- Corresponding values are the same key. -/
lemma key (h : C.Pair c s t) {value : Value} (known : value.In c) :
    SameIn Key.In c (s.key value) (t.key value) := by
  cases value with
  | object scope =>
    simp only [SameIn, Session.key, h.handle?_rename]
    cases s.handle? (.object scope) with
    | none => exact ⟨rfl, known⟩
    | some handle =>
      refine ⟨Handle.key_rename scope handle, ?_⟩
      cases handle with
      | list | dict => exact known
      | _ => trivial
  | _ => exact ⟨rfl, known⟩

/-! ## Texts -/

/-- Scopes have the same descriptions. -/
lemma description (h : C.Pair c s t) (scope : ScopeId) :
    t.scopes.description scope = s.scopes.description scope := by
  rw [h.scopes, Scopes.description_rename]

/-- Scopes bind the same names. -/
lemma binds (h : C.Pair c s t) (scope : ScopeId) (name : String) :
    t.scopes.binds scope name = s.scopes.binds scope name := by
  rw [h.scopes, Scopes.binds_rename]

/-- Values are shown in the same text. -/
lemma render (h : C.Pair c s t) (value : Value) : t.render value = s.render value := by
  cases value with
  | object scope =>
    simp only [Session.render, h.handle?_rename, h.description]
    cases s.handle? (.object scope) with
    | none => rfl
    | some handle => simp [Handle.display?_rename]
  | classRef id => simp only [Session.render, (h.classAt id).1]
  | functionRef id => simp only [Session.render, (h.functionAt id).1.1]
  | _ => rfl

/-- Lists of corresponding values are shown in the same texts. -/
lemma renderAll (h : C.Pair c s t) (infos : List Justified) :
    t.renderAll (infos.map (Justified.rename C.rename)) = s.renderAll infos := by
  simp only [Session.renderAll, List.map_map]
  congr 2
  funext info
  exact h.render info.value

/-- Values print as the same text. -/
lemma shownText (h : C.Pair c s t) (value : Value) : t.shownText value = s.shownText value := by
  unfold Session.shownText
  have found := h.textOf? value
  generalize s.textOf? value = o, t.textOf? value = o' at found
  cases found with
  | none => exact h.render value
  | some r =>
    obtain ⟨rfl, _⟩ := r
    rfl

/-! ## Variables -/

/-- A variable that may be missing has corresponding values, or none. -/
lemma tryGet (h : C.Pair c s t) (scope : ScopeId) (name : String) :
    Maybe C.Info c (s.scopes.tryGet scope name) (t.scopes.tryGet scope name) := by
  rw [h.scopes, Scopes.tryGet_rename]
  exact rel_map fun info found => ⟨rfl, h.known.scopes.tryGet found⟩

/-- A variable has corresponding values, or it is the same fault to read it. -/
lemma get (h : C.Pair c s t) (scope : ScopeId) (name : String) :
    Attempt C.Info c (s.scopes.get scope name) (t.scopes.get scope name) := by
  rw [h.scopes, Scopes.get_rename]
  unfold Scopes.get
  cases e : s.scopes.tryGet scope name with
  | none => exact .error trivial
  | some info => exact .ok ⟨rfl, h.known.scopes.tryGet e⟩

end Pair

end Comparison

end Because
