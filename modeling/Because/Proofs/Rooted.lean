import Because.Proofs.Reachable
import Because.Proofs.Census

/-!
# Walks end

A name is looked up in a scope and in the scopes above it, and a method or a field in a class and in
the classes above it. These walks end, because whatever lies above is older: a scope is made below
one that is there, and a class is declared with a base that is there, and neither moves afterwards.
-/

namespace Because

/-- A walk that leads to smaller numbers visits the same ones, however many steps it may make, if
they are more than the number that it starts from. -/
lemma walk_enough {walk : Nat → Nat → List Nat} {next : Nat → Option Nat}
    (step : ∀ steps i, walk (steps + 1) i = i :: match next i with
      | some p => walk steps p
      | none => [])
    (smaller : ∀ i p, next i = some p → p < i) {steps other i : Nat} (enough : i < steps)
    (enough' : i < other) : walk steps i = walk other i := by
  induction steps generalizing i other with
  | zero => cases enough
  | succ steps ih =>
    cases other with
    | zero => cases enough'
    | succ other =>
      rw [step, step]
      cases e : next i with
      | none => rfl
      | some p =>
        have lt := smaller i p e
        have short : p < steps := by omega
        have short' : p < other := by omega
        dsimp only
        rw [ih short short']

/-- A walk that may make one step more than the number that it starts from is never cut short: above
that come the next one and all that is above it. -/
lemma walk_eq {walk : Nat → Nat → List Nat} {next : Nat → Option Nat}
    (step : ∀ steps i, walk (steps + 1) i = i :: match next i with
      | some p => walk steps p
      | none => [])
    (smaller : ∀ i p, next i = some p → p < i) (i : Nat) :
    walk (i + 1) i = i :: match next i with
      | some p => walk (p + 1) p
      | none => [] := by
  rw [step]
  cases above : next i with
  | none => rfl
  | some p =>
    have enough := walk_enough step smaller (smaller i p above) (Nat.lt_succ_self p)
    exact congrArg (i :: ·) enough

namespace Scopes

/-- Parents are older than their children. -/
def Descending (scopes : Scopes) : Prop :=
  ∀ s parent : Nat, scopes.parent? s = some parent → parent < s

namespace Descending

variable {scopes : Scopes}

/-- Above a scope come its parent and all that is above that. -/
lemma chain_eq (older : scopes.Descending) (s : ScopeId) :
    scopes.chain s = s :: match scopes.parent? s with
      | some parent => scopes.chain parent
      | none => [] :=
  walk_eq (fun _ _ => rfl) older s

/-- A new scope stands above none, and below an older one or none. -/
lemma push (older : scopes.Descending) {scope : Scope}
    (there : ∀ parent : Nat, scope.parent = some parent → parent < scopes.size) :
    (scopes.push scope).Descending := by
  intro t parent above
  rw [parent?, scopeAt_push] at above
  split at above
  · rename_i last
    rw [last]
    exact there parent above
  · exact older t parent above

end Descending

end Scopes

namespace Session

/-- Above a scope lies an older scope, and above a class an older class. -/
structure Rooted (s : Session) : Prop where
  scopes : ∀ i p : Nat, (s.scopes.scopeAt i).parent = some p → p < i
  classes : ∀ i p : Nat, (s.classAt i).parent = some p → p < i

namespace Rooted

variable {s : Session}

/-! ## Changes -/

/-- A scope may be added below an older one. -/
lemma pushScope (h : s.Rooted) {scope : Scope}
    (older : ∀ p : Nat, scope.parent = some p → p < s.scopes.size) :
    Rooted { s with scopes := s.scopes.push scope } where
  scopes := Scopes.Descending.push h.scopes older
  classes := h.classes

/-- A change that moves no scope. -/
lemma updateScope (h : s.Rooted) (scope : ScopeId) {f : Scope → Scope}
    (same : ∀ data, (f data).parent = data.parent) :
    Rooted { s with scopes := s.scopes.update scope f } where
  scopes i p above := by
    rw [Scopes.scopeAt_update] at above
    split at above
    · rw [same] at above
      exact h.scopes i p above
    · exact h.scopes i p above
  classes := h.classes

/-- A class may be added below an older one. -/
lemma pushClass (h : s.Rooted) {classDef : ClassDef}
    (older : ∀ p : Nat, classDef.parent = some p → p < s.classes.size) :
    Rooted { s with classes := s.classes.push classDef } where
  scopes := h.scopes
  classes i p above := by
    simp only [classAt, Array.getElem?_push] at above
    split at above
    · rename_i last
      rw [last]
      exact older p above
    · exact h.classes i p above

/-- A class may get a method. -/
lemma setMethod (h : s.Rooted) (id : ClassId) (name : String) (function : FunctionId) :
    Rooted { s with classes := s.classes.modify id fun classDef =>
      { classDef with methods := classDef.methods.insert name function } } where
  scopes := h.scopes
  classes i p above := by
    apply h.classes i p
    simp only [classAt, Array.getElem?_modify] at above ⊢
    split at above
    · cases e : s.classes[i]? <;> simpa [e] using above
    · exact above

end Rooted

/-- A blank session has no classes, and one scope, without a parent. -/
lemma blank_rooted (config : Config) (console : Console) : (blank config console).Rooted where
  scopes i p above := by
    cases i with
    | zero => cases above
    | succ i => cases above
  classes i p above := by cases above

end Session

end Because
