import Because.Proofs.Rooted

/-!
# Names and the scopes that bind them

Scopes come about one by one, each below an older one or below none, and bind names as they are told
to. A name means what the nearest scope upwards binds to it. So a declaration is seen from where its
scope is the nearest one that binds the name, and an assignment from where the nearest one is that
which the assignment has found; from everywhere else all names mean what they have meant.
-/

namespace Because

namespace Scopes

/-! ## Histories of scopes -/

/-- What may be asked of scopes. -/
inductive Operation where
  | root (description : String)
  | child (parent : ScopeId) (description : Option String)
  | declare (s : ScopeId) (name : String) (info : Justified)
  | assign (s : ScopeId) (name : String) (info : Justified)

/-- The answer to an operation, with the number of the scope that it has made. -/
abbrev Answer := Except Fault (Option ScopeId)

/-- The answer to a change, and the scopes that it leaves. -/
def settle (scopes : Scopes) : Except Fault Scopes → Answer × Scopes
  | .ok after => (.ok none, after)
  | .error fault => (.error fault, scopes)

namespace Operation

/-- Carry out an operation. -/
def run (scopes : Scopes) : Operation → Answer × Scopes
  | root description => let (id, after) := scopes.root description; (.ok (some id), after)
  | child parent description =>
    let (id, after) := scopes.child parent description; (.ok (some id), after)
  | declare s name info => scopes.settle (scopes.declare s name info)
  | assign s name info => scopes.settle (scopes.assign s name info)

/-- The scope that an operation speaks of. -/
def subject? : Operation → Option ScopeId
  | root _ => none
  | child parent _ => some parent
  | declare s _ _ | assign s _ _ => some s

end Operation

/-- The scopes after several operations. -/
def after (scopes : Scopes) (operations : List Operation) : Scopes :=
  operations.foldl (fun scopes operation => (operation.run scopes).2) scopes

/-- Operations speak of scopes that are there when they are carried out: the number of a scope
is got from making it. -/
def issued (scopes : Scopes) : List Operation → Bool
  | [] => true
  | operation :: rest =>
    operation.subject?.all (· < scopes.size) && (operation.run scopes).2.issued rest

/-! ## Nearest binders -/

/-- The first scope upwards from another, that scope included, that binds a name. -/
inductive Nearest (scopes : Scopes) (name : String) : ScopeId → ScopeId → Prop where
  | own {s} : scopes.binds s name = true → Nearest scopes name s s
  | above {s parent owner} : scopes.binds s name = false → scopes.parent? s = some parent →
    Nearest scopes name parent owner → Nearest scopes name s owner

variable {scopes after : Scopes} {s t owner : ScopeId} {name other : String} {info : Justified}

/-- Nearest binders are there if the scope is there that they are sought from. -/
lemma Nearest.lt (nearest : scopes.Nearest name s owner) (older : scopes.Descending)
    (there : s < scopes.size) : owner < scopes.size := by
  induction nearest with
  | own _ => exact there
  | above _ above _ ih => exact ih (Nat.lt_trans (older _ _ above) there)

/-- The nearest scope that binds a name binds it. -/
lemma Nearest.binds (nearest : scopes.Nearest name s owner) : scopes.binds owner name = true := by
  induction nearest with
  | own own => exact own
  | above _ _ _ ih => exact ih

/-- The scope that is found for a name is the nearest one that binds it. -/
lemma Descending.tryFind_iff (descending : scopes.Descending) :
    scopes.tryFind s name = some owner ↔ scopes.Nearest name s owner := by
  constructor
  · intro found
    induction s using Nat.strongRecOn with
    | ind s ih =>
      rw [tryFind, descending.chain_eq, List.find?_cons] at found
      cases own : scopes.binds s name with
      | true =>
        rw [own] at found
        cases found
        exact .own own
      | false =>
        rw [own] at found
        cases above : scopes.parent? s with
        | none =>
          rw [above] at found
          cases found
        | some parent =>
          rw [above] at found
          exact .above own above (ih parent (descending s parent above) found)
  · intro nearest
    induction nearest with
    | own own => rw [tryFind, descending.chain_eq, List.find?_cons, own]
    | above own above _ ih =>
      rw [tryFind, descending.chain_eq, List.find?_cons, own, above]
      exact ih

/-- Nothing is found for a name exactly if no scope upwards binds it. -/
lemma tryFind_eq_none_iff :
    scopes.tryFind s name = none ↔ ∀ t ∈ scopes.chain s, scopes.binds t name = false := by
  simp only [tryFind, List.find?_eq_none, Bool.not_eq_true]

/-- The scope that is found for a name binds it. -/
lemma binds_of_tryFind (found : scopes.tryFind s name = some owner) :
    scopes.binds owner name = true := by
  rw [tryFind] at found
  have binds := List.find?_some found
  exact binds

/-- A scope that binds a name has a value for it. -/
lemma local?_of_binds (binds : scopes.binds s name = true) :
    ∃ info, scopes.local? s name = some info :=
  Option.isSome_iff_exists.1 binds

/-! ## Changes of one binding -/

/-- Scopes that differ from earlier ones in what one of them binds to one name. -/
structure Rebinds (scopes : Scopes) (owner : ScopeId) (name : String) (info : Justified)
    (after : Scopes) : Prop where
  size : after.size = scopes.size
  parent : ∀ t, after.parent? t = scopes.parent? t
  description : ∀ t, after.description t = scopes.description t
  tag : ∀ t, (after.scopeAt t).tag = (scopes.scopeAt t).tag
  binding : ∀ t other, after.local? t other =
    if t = owner ∧ other = name then some info else scopes.local? t other

/-- A scope that is there can be made to bind a name. -/
lemma bind_rebinds (there : s < scopes.size) (name : String) (info : Justified) :
    scopes.Rebinds s name info (scopes.bind s name info) where
  size := size_update ..
  parent t := by
    simp only [parent?, bind, scopeAt_update]
    split <;> rfl
  description t := by
    simp only [description, bind, scopeAt_update]
    split <;> rfl
  tag t := by
    simp only [bind, scopeAt_update]
    split <;> rfl
  binding t other := by
    simp only [local?, bind, scopeAt_update, there, and_true]
    by_cases here : s = t
    · simp [here, Assoc.get?_insert]
    · simp [here, Ne.symm here]

namespace Rebinds

variable (h : scopes.Rebinds owner name info after)

include h

/-- Besides the names that were bound, the one name is bound in the one scope. -/
lemma binds_eq (t : ScopeId) (other : String) :
    after.binds t other = (decide (t = owner ∧ other = name) || scopes.binds t other) := by
  have binding := h.binding t other
  simp only [binds, Assoc.contains, local?] at binding ⊢
  rw [binding]
  split <;> simp [*]

/-- The walk upwards is the same. -/
lemma chain_eq (t : ScopeId) : after.chain t = scopes.chain t := by
  have same (steps : Nat) (t : ScopeId) : after.chainFrom steps t = scopes.chainFrom steps t := by
    induction steps generalizing t with
    | zero => rfl
    | succ steps ih => simp only [chainFrom, h.parent, ih]
  exact same (t + 1) t

/-- For other names the same scope is found. -/
lemma tryFind_other (ne : other ≠ name) (t : ScopeId) :
    after.tryFind t other = scopes.tryFind t other := by
  simp only [tryFind, h.chain_eq, h.binds_eq, ne, and_false, decide_false, Bool.false_or]

/-- For the name itself, either the changed scope is found, or what has been found before. -/
lemma tryFind_or (t : ScopeId) : after.tryFind t name = some owner ∨
    after.tryFind t name = scopes.tryFind t name := by
  simp only [tryFind, h.chain_eq, h.binds_eq, and_true]
  induction scopes.chain t with
  | nil => exact .inr rfl
  | cons first rest ih =>
    by_cases here : first = owner
    · exact .inl (by simp [here])
    · cases own : scopes.binds first name with
      | true => exact .inr (by simp [here, own])
      | false => simpa [here, own] using ih

/-- A scope that has bound the name already is found from where it has been found. -/
lemma tryFind_bound (bound : scopes.binds owner name = true) (t : ScopeId) :
    after.tryFind t name = scopes.tryFind t name := by
  have same (t : ScopeId) : after.binds t name = scopes.binds t name := by
    rw [h.binds_eq]
    by_cases here : t = owner
    · simp [here, bound]
    · simp [here]
  simp only [tryFind, h.chain_eq, same]

/-- The new value is what the name means from where the changed scope is found. -/
lemma get_found (found : after.tryFind t name = some owner) : after.get t name = .ok info := by
  have binding := h.binding owner name
  rw [if_pos ⟨rfl, rfl⟩] at binding
  rw [get, tryGet, found, Option.bind_some, binding]

/-- From elsewhere, and for the other names, all is as it was, failures included. -/
lemma get_elsewhere (elsewhere : ¬ (other = name ∧ after.tryFind t name = some owner)) :
    after.get t other = scopes.get t other := by
  have same : after.tryFind t other = scopes.tryFind t other := by
    by_cases its : other = name
    · subst its
      exact (h.tryFind_or t).resolve_left fun found => elsewhere ⟨rfl, found⟩
    · exact h.tryFind_other its t
  have values : after.tryGet t other = scopes.tryGet t other := by
    rw [tryGet, tryGet, same]
    cases found : scopes.tryFind t other with
    | none => rfl
    | some finds =>
      rw [Option.bind_some, Option.bind_some, h.binding, if_neg]
      rintro ⟨rfl, rfl⟩
      exact elsewhere ⟨rfl, same.trans found⟩
  rw [get, get, values, h.description]

/-- Parents stay older. -/
lemma descending (older : scopes.Descending) : after.Descending := fun t parent above =>
  older t parent ((h.parent t).symm.trans above)

end Rebinds

/-! ## Lookups, declarations and assignments -/

/-- How the four ways to look up a name agree: they find the nearest scope that binds it, and what
it binds to it, or they all find nothing, because no scope upwards binds it. -/
inductive Agree (scopes : Scopes) (s : ScopeId) (name : String) : Prop where
  | bound (owner : ScopeId) (info : Justified) :
    scopes.Nearest name s owner → scopes.local? owner name = some info →
    scopes.tryFind s name = some owner → scopes.find s name = .ok owner →
    scopes.tryGet s name = some info → scopes.get s name = .ok info → Agree scopes s name
  | unbound :
    (∀ t ∈ scopes.chain s, scopes.binds t name = false) → scopes.tryFind s name = none →
    scopes.find s name = .error (.undefinedVariable name (scopes.description s)) →
    scopes.tryGet s name = none →
    scopes.get s name = .error (.undefinedVariable name (scopes.description s)) →
    Agree scopes s name

/-- A change is seen from some scopes: from them the name means the new value. From all others it
means what it has meant, and so do all other names from everywhere. -/
structure SeenFrom (scopes after : Scopes) (name : String) (info : Justified)
    (places : ScopeId → Prop) : Prop where
  seen : ∀ t, places t → after.get t name = .ok info
  kept : ∀ t other, ¬ (other = name ∧ places t) → after.get t other = scopes.get t other
  /-- What has not meant the value before means it only where the change is seen. -/
  only : ∀ t other, scopes.get t other ≠ .ok info →
    (after.get t other = .ok info ↔ other = name ∧ places t)

/-- What a declaration does: it fails if the scope itself binds the name, and otherwise adds one
binding. That is seen from where the scope is now the nearest one that binds the name. -/
structure Declares (scopes : Scopes) (s : ScopeId) (name : String) (info : Justified) : Prop where
  refused : ∀ fault, scopes.declare s name info = .error fault ↔
    scopes.binds s name = true ∧ fault = .duplicateDeclaration name (scopes.description s)
  adds : ∀ after, scopes.declare s name info = .ok after → scopes.Rebinds s name info after
  seen : ∀ after, scopes.declare s name info = .ok after →
    scopes.SeenFrom after name info fun t => after.Nearest name t s

/-- What an assignment does: it fails if no scope upwards binds the name, and otherwise changes the
nearest binding. That is seen from where the nearest one is the same. -/
structure Assigns (scopes : Scopes) (s : ScopeId) (name : String) (info : Justified) : Prop where
  refused : ∀ fault, scopes.assign s name info = .error fault ↔
    (∀ t ∈ scopes.chain s, scopes.binds t name = false) ∧
      fault = .undefinedVariable name (scopes.description s)
  changes : ∀ after, scopes.assign s name info = .ok after → ∃ owner, scopes.Nearest name s owner ∧
    scopes.Rebinds owner name info after ∧
    scopes.SeenFrom after name info fun t => scopes.Nearest name t owner

/-- All four ways to look up a name go by the scope that is found. -/
lemma Descending.agree (older : scopes.Descending) (s : ScopeId) (name : String) :
    scopes.Agree s name := by
  cases found : scopes.tryFind s name with
  | none =>
    have value : scopes.tryGet s name = none := by rw [tryGet, found, Option.bind_none]
    exact .unbound (tryFind_eq_none_iff.1 found) found (by rw [find, found]) value
      (by rw [get, value])
  | some owner =>
    obtain ⟨info, binding⟩ := local?_of_binds (binds_of_tryFind found)
    have value : scopes.tryGet s name = some info := by
      rw [tryGet, found, Option.bind_some, binding]
    exact .bound owner info (older.tryFind_iff.1 found) binding found (by rw [find, found]) value
      (by rw [get, value])

/-- A change of a binding is seen from where the changed scope is found. -/
lemma Rebinds.seenFrom (h : scopes.Rebinds owner name info after) :
    scopes.SeenFrom after name info fun t => after.tryFind t name = some owner where
  seen _ found := h.get_found found
  kept _ _ elsewhere := h.get_elsewhere elsewhere
  only t other fresh := by
    constructor
    · intro means
      by_contra elsewhere
      exact fresh ((h.get_elsewhere elsewhere).symm.trans means)
    · rintro ⟨rfl, found⟩
      exact h.get_found found

/-- Where parents are older, a declaration does what it should. -/
lemma Descending.declares (older : scopes.Descending) (there : s < scopes.size) (name : String)
    (info : Justified) : scopes.Declares s name info where
  refused fault := by
    rw [declare]
    cases scopes.binds s name <;> simp [eq_comm]
  adds after done := by
    rw [declare] at done
    split at done <;> cases done
    exact bind_rebinds there name info
  seen after done := by
    rw [declare] at done
    split at done <;> cases done
    have change := bind_rebinds there name info
    simpa only [(change.descending older).tryFind_iff] using change.seenFrom

/-- Where parents are older, an assignment does what it should. -/
lemma Descending.assigns (older : scopes.Descending) (there : s < scopes.size) (name : String)
    (info : Justified) : scopes.Assigns s name info where
  refused fault := by
    rw [assign, ← tryFind_eq_none_iff]
    cases scopes.tryFind s name <;> simp [eq_comm]
  changes after done := by
    rw [assign] at done
    split at done <;> cases done
    rename_i owner found
    have nearest := older.tryFind_iff.1 found
    have change := bind_rebinds (nearest.lt older there) name info
    have bound := change.tryFind_bound (binds_of_tryFind found)
    refine ⟨owner, nearest, change, ?_⟩
    simpa only [bound, older.tryFind_iff] using change.seenFrom

/-! ## Along a history -/

/-- Without scopes, all parents are older. -/
lemma empty_descending : ({} : Scopes).Descending := fun _ _ above => by cases above

/-- A change that may fail keeps parents older, if it does so where it succeeds. -/
lemma Descending.settle (older : scopes.Descending) {result : Except Fault Scopes}
    (each : ∀ after, result = .ok after → after.Descending) :
    (scopes.settle result).2.Descending := by
  cases result with
  | error fault => exact older
  | ok after => exact each after rfl

/-- Each operation makes or changes scopes such that parents stay older. -/
lemma Descending.run (older : scopes.Descending) {operation : Operation}
    (there : ∀ subject, operation.subject? = some subject → subject < scopes.size) :
    (operation.run scopes).2.Descending := by
  cases operation with
  | root description => exact older.push fun _ above => by cases above
  | child parent description =>
    refine older.push fun _ above => ?_
    cases above
    exact there parent rfl
  | declare s name info =>
    exact older.settle fun after done =>
      ((older.declares (there s rfl) name info).adds after done).descending older
  | assign s name info =>
    refine older.settle fun after done => ?_
    obtain ⟨owner, -, change, -⟩ := (older.assigns (there s rfl) name info).changes after done
    exact change.descending older

/-- Parents stay older along a history of operations. -/
lemma Descending.along (older : scopes.Descending) {operations : List Operation}
    (known : scopes.issued operations = true) : (scopes.after operations).Descending := by
  induction operations generalizing scopes with
  | nil => exact older
  | cons operation rest ih =>
    rw [issued, Bool.and_eq_true, Option.all_eq_true] at known
    refine ih (older.run fun subject speaks => ?_) known.2
    exact of_decide_eq_true (known.1 subject speaks)

/-- What holds of scopes in which names are bound lexically. -/
structure Lexical (scopes : Scopes) : Prop where
  /-- Parents are older. -/
  older : ∀ s parent : Nat, scopes.parent? s = some parent → parent < s
  /-- So a walk upwards ends at a scope without a parent. -/
  walk : ∀ s, scopes.chain s = s :: match scopes.parent? s with
    | some parent => scopes.chain parent
    | none => []
  lookups : ∀ s name, scopes.Agree s name
  declarations : ∀ s name info, s < scopes.size → scopes.Declares s name info
  assignments : ∀ s name info, s < scopes.size → scopes.Assigns s name info
  /-- What fails changes nothing. -/
  failures : ∀ (operation : Operation) fault, (operation.run scopes).1 = .error fault →
    (operation.run scopes).2 = scopes

/-- An operation that fails changes nothing. -/
lemma run_failed {operation : Operation} {fault : Fault}
    (failed : (operation.run scopes).1 = .error fault) : (operation.run scopes).2 = scopes := by
  have settled {result : Except Fault Scopes} (failed : (scopes.settle result).1 = .error fault) :
      (scopes.settle result).2 = scopes := by
    cases result with
    | error _ => rfl
    | ok _ => cases failed
  cases operation with
  | root _ | child _ _ => cases failed
  | declare s name info | assign s name info => exact settled failed

/-- However scopes have been made, declared in and assigned to, names are bound in them lexically:
declarations and assignments are seen from where their scope is the nearest one that binds the name,
and from nowhere else. -/
theorem lookups_shadow (operations : List Operation)
    (known : issued {} operations = true) : (Scopes.after {} operations).Lexical := by
  have older := empty_descending.along known
  exact {
    older
    walk := older.chain_eq
    lookups := older.agree
    declarations := fun s name info there => older.declares there name info
    assignments := fun s name info there => older.assigns there name info
    failures := fun operation fault failed => run_failed failed }

/-- Three scopes of which each lies below the one before it. A name is declared in the outer two,
and then assigned to from the third. -/
def nested : List Operation :=
  [.root "outer", .child 0 none, .child 1 (some "inner"), .declare 0 "x" ⟨.int 1, 0⟩,
    .declare 1 "x" ⟨.int 2, 1⟩, .assign 2 "x" ⟨.int 3, 2⟩]

/-- The name means what the nearest of three scopes binds, which an assignment from the third has
changed, while the outermost one has kept its value. -/
theorem lookups_shadow_of_nested :
    issued {} nested = true ∧ (Scopes.after {} nested).Lexical ∧
      (Scopes.after {} nested).get 2 "x" = .ok ⟨.int 3, 2⟩ ∧
      (Scopes.after {} nested).get 0 "x" = .ok ⟨.int 1, 0⟩ :=
  ⟨by decide, lookups_shadow nested (by decide), by decide, by decide⟩

end Scopes

end Because
