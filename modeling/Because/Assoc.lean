/-!
# Association lists

Keys with values, in the order in which the keys were first inserted. The main statement is
`get?_insert`: an insertion changes the value of its key and of no other.
-/

namespace Because

/-- Keys with values. -/
abbrev Assoc (κ α : Type) : Type := List (κ × α)

namespace Assoc

variable {κ α : Type} [DecidableEq κ]

/-- The value of a key. -/
def get? : Assoc κ α → κ → Option α
  | [], _ => none
  | (known, value) :: rest, key => if known = key then some value else get? rest key

/-- Whether there is a value for a key. -/
def contains (entries : Assoc κ α) (key : κ) : Bool := (entries.get? key).isSome

/-- Give a key a value. A key that has one keeps its place, and a new key goes to the end. -/
def insert : Assoc κ α → κ → α → Assoc κ α
  | [], key, value => [(key, value)]
  | (known, old) :: rest, key, value =>
    if known = key then (key, value) :: rest else (known, old) :: insert rest key value

/-- The keys, in the order in which they were first inserted. -/
def keys (entries : Assoc κ α) : List κ := entries.map Prod.fst

/-- Nothing is found among no entries. -/
@[simp] theorem get?_nil (key : κ) : get? ([] : Assoc κ α) key = none := rfl

/-- After an insertion its key leads to the new value, and every other key to what it led to before.
-/
theorem get?_insert (entries : Assoc κ α) (key other : κ) (value : α) :
    (entries.insert key value).get? other =
      if other = key then some value else entries.get? other := by
  induction entries with
  | nil => by_cases h : other = key <;> simp [insert, get?, h, Ne.symm]
  | cons entry rest ih =>
    obtain ⟨known, old⟩ := entry
    by_cases h : known = key
    · subst h
      by_cases k : other = known <;> simp [insert, get?, k, Ne.symm]
    · by_cases k : known = other
      · subst k
        simp [insert, get?, h]
      · simp [insert, get?, h, k, ih]

/-- An insertion adds its own key to those that are there, and no other. -/
theorem contains_insert (entries : Assoc κ α) (key other : κ) (value : α) :
    (entries.insert key value).contains other =
      (decide (other = key) || entries.contains other) := by
  by_cases h : other = key <;> simp [contains, get?_insert, h]

/-- Giving a value to a new key puts it at the end. -/
theorem insert_of_absent {entries : Assoc κ α} {key : κ} (absent : entries.contains key = false)
    (value : α) : entries.insert key value = entries ++ [(key, value)] := by
  induction entries with
  | nil => rfl
  | cons entry rest ih =>
    obtain ⟨known, old⟩ := entry
    by_cases here : known = key
    · rw [contains, get?, if_pos here] at absent
      cases absent
    · rw [contains, get?, if_neg here] at absent
      rw [insert, if_neg here, ih absent, List.cons_append]

/-- A value that is found is that of an entry. -/
theorem mem_of_get? {entries : Assoc κ α} {key : κ} {value : α}
    (found : entries.get? key = some value) : (key, value) ∈ entries := by
  induction entries with
  | nil => cases found
  | cons entry rest ih =>
    obtain ⟨known, old⟩ := entry
    by_cases h : known = key
    · subst h
      simp only [get?, if_true, Option.some.injEq] at found
      subst found
      exact List.mem_cons_self
    · simp only [get?, if_neg h] at found
      exact List.mem_cons_of_mem _ (ih found)

/-- An entry after an insertion is the inserted one or an old one. -/
theorem mem_insert {entries : Assoc κ α} {key : κ} {value : α} {entry : κ × α}
    (mem : entry ∈ entries.insert key value) : entry = (key, value) ∨ entry ∈ entries := by
  induction entries with
  | nil => exact .inl (List.mem_singleton.1 mem)
  | cons old rest ih =>
    by_cases h : old.1 = key
    · simp only [insert, if_pos h, List.mem_cons] at mem
      obtain rfl | mem := mem
      · exact .inl rfl
      · exact .inr (List.mem_cons_of_mem _ mem)
    · simp only [insert, if_neg h, List.mem_cons] at mem
      obtain rfl | mem := mem
      · exact .inr List.mem_cons_self
      · exact (ih mem).imp_right (List.mem_cons_of_mem _)

end Assoc

end Because
