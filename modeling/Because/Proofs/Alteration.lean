import Because.Proofs.Handover

/-!
# What a run leaves alone

A run that writes only some variables and changes the states of only some objects leaves everything
else as it was, however much comes on top: the other variables keep their values and the other
objects their states, every object keeps its class, and scopes stay where they are.
-/

namespace Because

namespace Session

variable {s s' s'' : Session} {written wider : Places} {restated more : ScopeId → Prop}
  {i scope : ScopeId} {name : String} {info : Justified}

/-- An object keeps its class when its state changes. -/
lemma classOf?_restate {new : Handle} (same : s'.scopes = s.scopes.restate i new) (value : Value) :
    s'.classOf? value = s.classOf? value := by
  cases value with
  | object j =>
    simp only [classOf?, tag?, Value.scope?, Option.bind_some, same, Scopes.restate,
      Scopes.scopeAt_update]
    split
    · rw [Option.map_map]
      rfl
    · rfl
  | _ => rfl

/-- In the scopes that were there before, only these variables may have been written, and only these
objects may have got other states. -/
structure Alters (s : Session) (written : Places) (restated : ScopeId → Prop)
    (s' : Session) : Prop where
  graph : s.graph.size ≤ s'.graph.size
  scopes : s.scopes.size ≤ s'.scopes.size
  parent : ∀ i : Nat, i < s.scopes.size → s'.scopes.parent? i = s.scopes.parent? i
  description : ∀ i : Nat, i < s.scopes.size → s'.scopes.description i = s.scopes.description i
  locals : ∀ (i : Nat) name, i < s.scopes.size → ¬ written i name →
    s'.scopes.local? i name = s.scopes.local? i name
  tags : ∀ i : Nat, i < s.scopes.size → ¬ restated i →
    (s'.scopes.scopeAt i).tag = (s.scopes.scopeAt i).tag
  ofClass : ∀ i : Nat, i < s.scopes.size → s'.classOf? (.object i) = s.classOf? (.object i)
  classes : s'.classes = s.classes
  functions : s'.functions = s.functions

/-- What only adds alters nothing, whatever might have been altered. -/
lemma Adds.alters (h : s.Adds s') (written : Places) (restated : ScopeId → Prop) :
    s.Alters written restated s' where
  graph := h.graph
  scopes := h.scopes
  parent i lt := congrArg Scope.parent (h.old i lt)
  description i lt := congrArg Scope.description (h.old i lt)
  locals i name lt _ := congrArg (·.bindings.get? name) (h.old i lt)
  tags i lt _ := congrArg Scope.tag (h.old i lt)
  ofClass i lt := congrArg (·.tag.map ObjectTag.classId) (h.old i lt)
  classes := h.classes
  functions := h.functions

/-- Nothing that was there has been written, and no object has got another state. -/
lemma Adds.unaltered (h : s.Adds s') : s.Alters (fun _ _ => False) (fun _ => False) s' :=
  h.alters _ _

namespace Alters

/-- One alteration after the other alters what either may alter. -/
lemma trans (h : s.Alters written restated s') (h' : s'.Alters written restated s'') :
    s.Alters written restated s'' where
  graph := Nat.le_trans h.graph h'.graph
  scopes := Nat.le_trans h.scopes h'.scopes
  parent i lt := (h'.parent i (Nat.lt_of_lt_of_le lt h.scopes)).trans (h.parent i lt)
  description i lt :=
    (h'.description i (Nat.lt_of_lt_of_le lt h.scopes)).trans (h.description i lt)
  locals i name lt spared :=
    (h'.locals i name (Nat.lt_of_lt_of_le lt h.scopes) spared).trans (h.locals i name lt spared)
  tags i lt spared :=
    (h'.tags i (Nat.lt_of_lt_of_le lt h.scopes) spared).trans (h.tags i lt spared)
  ofClass i lt := (h'.ofClass i (Nat.lt_of_lt_of_le lt h.scopes)).trans (h.ofClass i lt)
  classes := h'.classes.trans h.classes
  functions := h'.functions.trans h.functions

/-- What is written in scopes that have come on top does not count. -/
lemma widen (h : s.Alters written restated s')
    (writes : ∀ (i : Nat) name, i < s.scopes.size → written i name → wider i name)
    (restates : ∀ i : Nat, i < s.scopes.size → restated i → more i) : s.Alters wider more s' where
  graph := h.graph
  scopes := h.scopes
  parent := h.parent
  description := h.description
  locals i name lt spared := h.locals i name lt fun wrote => spared (writes i name lt wrote)
  tags i lt spared := h.tags i lt fun changed => spared (restates i lt changed)
  ofClass := h.ofClass
  classes := h.classes
  functions := h.functions

/-- A variable is written. -/
lemma bind (scope : ScopeId) (name : String) (info : Justified) (restated : ScopeId → Prop) :
    s.Alters (fun i other => i = scope ∧ other = name) restated
      { s with scopes := s.scopes.bind scope name info } where
  graph := Nat.le_refl _
  scopes := Nat.le_of_eq (Scopes.size_update ..).symm
  parent i _ := by
    simp only [Scopes.parent?, Scopes.bind, Scopes.scopeAt_update]
    split <;> rfl
  description i _ := by
    simp only [Scopes.description, Scopes.bind, Scopes.scopeAt_update]
    split <;> rfl
  locals i other _ spared := by
    rw [Scopes.local_bind, if_neg fun here => spared ⟨here.1.1.symm, here.2⟩]
  tags i _ _ := Scopes.tag_bind ..
  ofClass i _ := congrArg (Option.map ObjectTag.classId) (Scopes.tag_bind ..)
  classes := rfl
  functions := rfl

/-- An object gets another state. -/
lemma restate (written : Places) (scope : ScopeId) (new : Handle) :
    s.Alters written (· = scope) { s with scopes := s.scopes.restate scope new } where
  graph := Nat.le_refl _
  scopes := Nat.le_of_eq (Scopes.size_update ..).symm
  parent i _ := by
    simp only [Scopes.parent?, Scopes.restate, Scopes.scopeAt_update]
    split <;> rfl
  description i _ := by
    simp only [Scopes.description, Scopes.restate, Scopes.scopeAt_update]
    split <;> rfl
  locals i other _ _ := by
    simp only [Scopes.local?, Scopes.restate, Scopes.scopeAt_update]
    split <;> rfl
  tags i _ spared := by
    rw [Scopes.restate, Scopes.scopeAt_update, if_neg fun here => spared here.1.symm]
  ofClass i _ := classOf?_restate rfl _
  classes := rfl
  functions := rfl

section

variable (h : s.Alters written restated s')

include h

/-- Reasons that have been recorded stay recorded. -/
lemma knows {ids : List ReasonId} (known : s.graph.Knows ids) : s'.graph.Knows ids :=
  fun j mem => Nat.lt_of_lt_of_le (known j mem) h.graph

/-- Classes are not altered. -/
lemma classAt (id : ClassId) : s'.classAt id = s.classAt id := by
  rw [Session.classAt, h.classes, ← Session.classAt]

/-- Functions are not altered. -/
lemma functionAt (f : FunctionId) : s'.functionAt f = s.functionAt f := by
  rw [Session.functionAt, h.functions, ← Session.functionAt]

/-- An object that has not been changed keeps its state. -/
lemma handle? {value : Value} {handle : Handle} (spared : ∀ i, value = .object i → ¬ restated i)
    (state : s.handle? value = some handle) : s'.handle? value = some handle := by
  cases value with
  | object i =>
    obtain ⟨tag, tagged, holds⟩ := Option.bind_eq_some_iff.1 state
    have found : (s.scopes.scopeAt i).tag = some tag := tagged
    have lt : Nat.lt i s.scopes.size := Comparison.lt_size_of_tag (found ▸ rfl)
    have tagged' : s'.tag? (.object i) = some tag := (h.tags i lt (spared i rfl)).trans found
    rw [Session.handle?, tagged', Option.bind_some, holds]
  | _ => cases state

/-- Objects keep their class, also those that get another state. -/
lemma classOf? {value : Value} {id : ClassId} (ofClass : s.classOf? value = some id) :
    s'.classOf? value = some id := by
  cases value with
  | object i =>
    obtain ⟨tag, tagged, -⟩ := Option.map_eq_some_iff.1 ofClass
    have found : (s.scopes.scopeAt i).tag = some tag := tagged
    rw [h.ofClass i (Comparison.lt_size_of_tag (found ▸ rfl)), ofClass]
  | _ => cases ofClass

/-- An object that has not been changed is shown as it was. -/
lemma render {i : ScopeId} (lt : Nat.lt i s.scopes.size) (spared : ¬ restated i) :
    s'.render (.object i) = s.render (.object i) := by
  simp only [Session.render, Session.handle?, tag?, Value.scope?, Option.bind_some,
    h.tags i lt spared, h.description i lt]

/-- The scopes in which a variable is sought stay the same, as long as all of them are there. -/
lemma chainFrom {steps : Nat} (seen : ∀ j ∈ s.scopes.chainFrom steps i, Nat.lt j s.scopes.size) :
    s'.scopes.chainFrom steps i = s.scopes.chainFrom steps i := by
  induction steps generalizing i with
  | zero => rfl
  | succ steps ih =>
    obtain ⟨first, others⟩ := List.forall_mem_cons.1 seen
    rw [Scopes.chainFrom, Scopes.chainFrom, h.parent i first]
    cases above : s.scopes.parent? i with
    | none => rfl
    | some parent =>
      rw [above] at others
      exact congrArg (i :: ·) (ih others)

/-- The scopes above one stay above it, and a variable of them that has not been written keeps its
value. -/
lemma tryGet (seen : ∀ j ∈ s.scopes.chain i, Nat.lt j s.scopes.size)
    (spared : ∀ j ∈ s.scopes.chain i, ¬ written j name) :
    s'.scopes.tryGet i name = s.scopes.tryGet i name := by
  have same : s'.scopes.chain i = s.scopes.chain i := h.chainFrom seen
  rw [tryGet_eq, tryGet_eq, same]
  exact findSome?_congr fun j mem => h.locals j name (seen j mem) (spared j mem)

end

end Alters

end Session

end Because
