import Because.Proofs.Census

/-!
# Renaming reasons

Two runs may number their reasons differently. A renaming of the reasons carries everything that
one run holds over to the other; texts, values and the numbers of scopes, classes and functions
stay as they are. Whatever a session answers about its scopes, it answers after a renaming in the
same way, up to the renaming.
-/

namespace Because

variable {ρ : ReasonId → ReasonId}

/-! ## Associations -/

namespace Assoc

variable {κ α β : Type} [DecidableEq κ]

/-- Carry over the values and leave the keys. -/
def mapValues (f : α → β) (entries : Assoc κ α) : Assoc κ β :=
  entries.map fun entry => (entry.1, f entry.2)

/-- What is found among changed values is the change of what is found. -/
lemma get?_mapValues (f : α → β) (entries : Assoc κ α) (key : κ) :
    (entries.mapValues f).get? key = (entries.get? key).map f := by
  induction entries with
  | nil => rfl
  | cons entry rest ih =>
    by_cases h : entry.1 = key
    · simp [mapValues, get?, h]
    · simpa [mapValues, get?, h] using ih

/-- The same keys are there. -/
lemma contains_mapValues (f : α → β) (entries : Assoc κ α) (key : κ) :
    (entries.mapValues f).contains key = entries.contains key := by
  simp [contains, get?_mapValues]

/-- A changed value may be inserted before or after the others are changed. -/
lemma insert_mapValues (f : α → β) (entries : Assoc κ α) (key : κ) (value : α) :
    (entries.mapValues f).insert key (f value) = (entries.insert key value).mapValues f := by
  induction entries with
  | nil => rfl
  | cons entry rest ih =>
    by_cases h : entry.1 = key
    · simp [mapValues, insert, h]
    · simpa [mapValues, insert, h] using ih

omit [DecidableEq κ] in
/-- Values that stay as they are leave the table as it is. -/
lemma mapValues_id (entries : Assoc κ α) : entries.mapValues id = entries := by
  simp [mapValues]

end Assoc

/-! ## Ledgers -/

namespace Ledger

variable {κ α β : Type}

/-- Nothing changes where all things stay. -/
lemma map_id (ledger : Ledger κ α) : ledger.map id = ledger := by
  simp [map]

variable [DecidableEq κ]

/-- What stands for a key is what has been carried over for it. -/
lemma get?_map (f : α → β) (ledger : Ledger κ α) (key : κ) :
    (ledger.map f).get? key = (ledger.get? key).map f := by
  cases found : ledger.index.get? key with
  | none => simp [get?, map, found]
  | some position => simp [get?, map, found]

/-- A thing may be carried over before it is put or after. -/
lemma put_map (f : α → β) (ledger : Ledger κ α) (key : κ) (thing : α) :
    (ledger.map f).put key (f thing) = (ledger.put key thing).map f := by
  cases found : ledger.index.get? key with
  | none => simp [put, map, found]
  | some position => simp [put, map, found, List.map_set]

end Ledger

/-! ## Values and handles -/

/-- The same value, for the renamed reason. -/
def Justified.rename (ρ : ReasonId → ReasonId) (info : Justified) : Justified :=
  ⟨info.value, ρ info.why⟩

/-- A renaming that changes no number changes no value. -/
lemma Justified.rename_id : Justified.rename id = id := rfl

/-- The reasons of renamed values are the renamed reasons. -/
lemma reasons_rename (infos : List Justified) :
    reasons (infos.map (Justified.rename ρ)) = (reasons infos).map ρ := by
  simp [reasons, Justified.rename]

/-- The entry with renamed reasons. -/
def Entry.rename (ρ : ReasonId → ReasonId) (entry : Entry) : Entry :=
  ⟨entry.key.rename ρ, entry.value.rename ρ⟩

/-- A renaming that changes no number changes no entry. -/
lemma Entry.rename_id : Entry.rename id = id := rfl

/-- The same state, for renamed reasons. -/
def Handle.rename (ρ : ReasonId → ReasonId) : Handle → Handle
  | .text content why => .text content (ρ why)
  | .list items => .list (items.map (Justified.rename ρ))
  | .dict entries => .dict (entries.map (Entry.rename ρ))
  | .truth value why => .truth value (ρ why)
  | .number value why => .number value (ρ why)

namespace Handle

/-- A renaming that changes no number changes no state. -/
lemma rename_id : Handle.rename id = id := by
  funext h
  cases h with
  | list => simp [rename, Justified.rename_id]
  | dict => simp [rename, Entry.rename_id, Ledger.map_id]
  | _ => rfl

/-- A renamed state is of the same built-in class. -/
lemma builtin_rename (h : Handle) : (h.rename ρ).builtin = h.builtin := by
  cases h <;> rfl

/-- A renamed state is shown in the same text. -/
lemma display?_rename (h : Handle) : (h.rename ρ).display? = h.display? := by
  cases h <;> rfl

/-- An object with a renamed state is the same key. -/
lemma key_rename (scope : ScopeId) (h : Handle) : (h.rename ρ).key scope = h.key scope := by
  cases h <;> rfl

/-- A loop over a renamed state visits the renamed items. -/
lemma items?_rename (h : Handle) :
    (h.rename ρ).items? = h.items?.map (List.map (Justified.rename ρ)) := by
  cases h with
  | dict => simp [rename, items?, Ledger.map, Entry.rename]
  | _ => rfl

end Handle

/-! ## Scopes -/

/-- The tag with renamed reasons. -/
def ObjectTag.rename (ρ : ReasonId → ReasonId) (tag : ObjectTag) : ObjectTag :=
  { tag with handle := tag.handle.map (Handle.rename ρ) }

/-- A renaming that changes no number changes no tag. -/
lemma ObjectTag.rename_id : ObjectTag.rename id = id := by
  funext tag
  simp [rename, Handle.rename_id]

/-- The scope with renamed reasons. -/
def Scope.rename (ρ : ReasonId → ReasonId) (scope : Scope) : Scope :=
  { scope with
    bindings := scope.bindings.mapValues (Justified.rename ρ)
    tag := scope.tag.map (ObjectTag.rename ρ) }

/-- A renaming that changes no number changes no scope. -/
lemma Scope.rename_id : Scope.rename id = id := by
  funext scope
  simp [rename, ObjectTag.rename_id, Justified.rename_id, Assoc.mapValues_id]

/-- The scopes with renamed reasons. -/
def Scopes.rename (ρ : ReasonId → ReasonId) (scopes : Scopes) : Scopes :=
  { all := scopes.all.map (Scope.rename ρ) }

namespace Scopes

/-- A renaming that changes no number changes no scopes. -/
lemma rename_id (scopes : Scopes) : scopes.rename id = scopes := by
  simp [rename, Scope.rename_id]

variable {scopes : Scopes}

/-- There are as many scopes. -/
lemma size_rename : (scopes.rename ρ).size = scopes.size := by
  simp [rename, size]

/-- Each scope is renamed by itself. -/
lemma scopeAt_rename (s : ScopeId) : (scopes.rename ρ).scopeAt s = (scopes.scopeAt s).rename ρ := by
  simp only [rename, scopeAt, Array.getElem?_map]
  cases scopes.all[s]? with
  | none => rfl
  | some => rfl

/-- Scopes keep their descriptions. -/
lemma description_rename (s : ScopeId) :
    (scopes.rename ρ).description s = scopes.description s := by
  simp [description, scopeAt_rename, Scope.rename]

/-- Scopes bind the same names. -/
lemma binds_rename (s : ScopeId) (name : String) :
    (scopes.rename ρ).binds s name = scopes.binds s name := by
  simp [binds, scopeAt_rename, Scope.rename, Assoc.contains_mapValues]

/-- What a scope binds to a name is renamed. -/
lemma local?_rename (s : ScopeId) (name : String) :
    (scopes.rename ρ).local? s name = (scopes.local? s name).map (Justified.rename ρ) := by
  simp [local?, scopeAt_rename, Scope.rename, Assoc.get?_mapValues]

/-- The scopes above a scope are the same. -/
lemma chainFrom_rename (steps : Nat) (s : ScopeId) :
    (scopes.rename ρ).chainFrom steps s = scopes.chainFrom steps s := by
  induction steps generalizing s with
  | zero => rfl
  | succ steps ih =>
    simp only [chainFrom, parent?, scopeAt_rename, Scope.rename]
    cases (scopes.scopeAt s).parent with
    | none => rfl
    | some parent => simp only [ih]

/-- The same scope is found for a name. -/
lemma tryFind_rename (s : ScopeId) (name : String) :
    (scopes.rename ρ).tryFind s name = scopes.tryFind s name := by
  simp only [tryFind, chain, chainFrom_rename, binds_rename]

/-- The value that a name may have is renamed. -/
lemma tryGet_rename (s : ScopeId) (name : String) :
    (scopes.rename ρ).tryGet s name = (scopes.tryGet s name).map (Justified.rename ρ) := by
  simp only [tryGet, tryFind_rename, local?_rename]
  cases scopes.tryFind s name <;> rfl

/-- The value of a name is renamed, and it is the same fault if there is none. -/
lemma get_rename (s : ScopeId) (name : String) :
    (scopes.rename ρ).get s name = (scopes.get s name).map (Justified.rename ρ) := by
  simp only [get, tryGet_rename, description_rename]
  cases scopes.tryGet s name <;> rfl

/-- A change that goes through the renaming may be made before or after it. -/
lemma update_rename (s : ScopeId) {f g : Scope → Scope}
    (fg : ∀ scope : Scope, g (scope.rename ρ) = (f scope).rename ρ) :
    (scopes.rename ρ).update s g = (scopes.update s f).rename ρ := by
  simp only [rename, update, mk.injEq]
  apply Array.ext
  · simp
  · intro i hi hi'
    simp only [Array.getElem_modify, Array.getElem_map]
    split
    · exact fg _
    · rfl

/-- A renamed value may be bound before or after the others are renamed. -/
lemma bind_rename (s : ScopeId) (name : String) (info : Justified) :
    (scopes.rename ρ).bind s name (info.rename ρ) = (scopes.bind s name info).rename ρ := by
  apply update_rename
  intro scope
  simp [Scope.rename, Assoc.insert_mapValues]

/-- A scope that mentions no reasons may be added before or after the others are renamed. -/
lemma push_rename {scope : Scope} (plain : scope.rename ρ = scope) :
    (scopes.rename ρ).push scope = (scopes.push scope).rename ρ := by
  simp [rename, push, plain]

end Scopes

/-! ## Ends -/

/-- The flow with renamed reasons. -/
def Flow.rename (ρ : ReasonId → ReasonId) : Flow → Flow
  | .normal => .normal
  | .returned result => .returned (result.rename ρ)

/-- A renaming that changes no number changes no flow. -/
lemma Flow.rename_id (flow : Flow) : flow.rename id = flow := by
  cases flow <;> rfl

/-- The same failure, for the renamed reason. -/
def Failure.rename (ρ : ReasonId → ReasonId) (failure : Failure) : Failure :=
  { failure with why := failure.why.map ρ }

/-- A renaming that changes no number changes no failure. -/
lemma Failure.rename_id (failure : Failure) : failure.rename id = failure := by
  simp [rename]

/-- The fault with renamed reasons. -/
def NativeFault.rename (ρ : ReasonId → ReasonId) : NativeFault → NativeFault
  | .failure cause => .failure (cause.rename ρ)
  | fault => fault

/-- The same kind of reason, resting on renamed ones. -/
def Kind.rename (ρ : ReasonId → ReasonId) : Kind → Kind
  | .full name value calling values => .full name value (ρ calling) (values.map ρ)
  | kind => kind

/-- A renaming that changes no number changes no kind of reason. -/
lemma Kind.rename_id (kind : Kind) : kind.rename id = kind := by
  cases kind <;> simp [rename]

/-! ## Renamings that agree

Data that lies in a census tells two renamings apart only if they differ on its reasons. -/

section

variable {c : Census} {σ : ReasonId → ReasonId}

/-- Renamings that agree on the census rename a value in it alike. -/
lemma Justified.rename_congr (agree : ∀ i, c.reason i → ρ i = σ i) {info : Justified}
    (h : info.In c) : info.rename ρ = info.rename σ := by
  simp only [rename, agree _ h.why]

/-- Renamings that agree on the census rename a state in it alike. -/
lemma Handle.rename_congr (agree : ∀ i, c.reason i → ρ i = σ i) {handle : Handle}
    (h : handle.In c) : handle.rename ρ = handle.rename σ := by
  cases handle with
  | list items =>
    simp only [rename]
    rw [List.map_congr_left fun info mem => Justified.rename_congr agree (h info mem)]
  | dict entries =>
    have slots : entries.slots.map (Entry.rename ρ) = entries.slots.map (Entry.rename σ) := by
      refine List.map_congr_left fun entry mem => ?_
      have known := h.slots entry mem
      simp only [Entry.rename, Justified.rename_congr agree known.key,
        Justified.rename_congr agree known.value]
    simp only [rename, Ledger.map, slots]
  | _ => simp only [rename, agree _ h]

/-- Renamings that agree on the census rename a scope in it alike. -/
lemma Scope.rename_congr (agree : ∀ i, c.reason i → ρ i = σ i) {scope : Scope}
    (h : scope.In c) : scope.rename ρ = scope.rename σ := by
  have bindings : scope.bindings.mapValues (Justified.rename ρ) =
      scope.bindings.mapValues (Justified.rename σ) := by
    refine List.map_congr_left fun binding mem => ?_
    rw [Justified.rename_congr agree (h.bindings binding mem)]
  have tag : scope.tag.map (ObjectTag.rename ρ) = scope.tag.map (ObjectTag.rename σ) := by
    refine Option.map_congr fun tag mem => ?_
    have handle : tag.handle.map (Handle.rename ρ) = tag.handle.map (Handle.rename σ) :=
      Option.map_congr fun handle held => Handle.rename_congr agree ((h.tag tag mem).handle _ held)
    simp only [ObjectTag.rename, handle]
  simp only [rename, bindings, tag]

/-- Renamings that agree on the census rename scopes in it alike. -/
lemma Scopes.rename_congr (agree : ∀ i, c.reason i → ρ i = σ i) {scopes : Scopes}
    (h : scopes.In c) : scopes.rename ρ = scopes.rename σ := by
  simp only [rename, mk.injEq]
  refine Array.map_congr_left fun scope mem => ?_
  obtain ⟨i, lt, rfl⟩ := Array.mem_iff_getElem.1 mem
  have known := h i
  simp only [scopeAt, Array.getElem?_eq_getElem lt, Option.getD_some] at known
  exact Scope.rename_congr agree known

end

end Because
