import Because.Ledger
import Because.Proofs.Distinct

/-!
# The index of a ledger

A ledger stores its index apart from the things that it keeps. The two stay in step: whatever is
put, the keys have the positions of the things, each key its own, and at the position of a key
stands what has been put for it last. So the keys stand in the order in which they were first put.
-/

namespace Because

namespace Assoc

variable {κ α : Type} [DecidableEq κ]

/-- A key has a value if it is one of the keys. -/
lemma contains_eq (entries : Assoc κ α) (key : κ) :
    entries.contains key = decide (key ∈ entries.keys) := by
  induction entries with
  | nil => rfl
  | cons entry rest ih =>
    obtain ⟨known, old⟩ := entry
    rw [contains, keys] at *
    by_cases here : known = key
    · simp [get?, here]
    · simp [get?, here, Ne.symm here, ih]

/-- A value is found by the position of its key. -/
lemma get?_eq_idxOf? (entries : Assoc κ α) (key : κ) :
    entries.get? key = ((entries.keys.idxOf? key).bind (entries[·]?)).map Prod.snd := by
  induction entries with
  | nil => rfl
  | cons entry rest ih =>
    obtain ⟨known, old⟩ := entry
    rw [get?, keys, List.map_cons, List.idxOf?_cons]
    by_cases here : known = key
    · simp [here]
    · rw [if_neg here, if_neg (by simpa using here), ih, Option.bind_map]
      rfl

end Assoc

namespace Ledger

variable {κ α : Type} [DecidableEq κ] {ledger : Ledger κ α} {key other : κ} {thing : α}
  {position : Nat}

/-- The positions in the index are those of the things that the ledger keeps, in their order. -/
def Aligned (ledger : Ledger κ α) : Prop :=
  ledger.index.map Prod.snd = List.range ledger.slots.length

omit [DecidableEq κ] in
/-- Where nothing has been put, index and things are in step. -/
lemma aligned_empty : ({} : Ledger κ α).Aligned := rfl

namespace Aligned

variable (aligned : ledger.Aligned)

include aligned

omit [DecidableEq κ] in
/-- There are as many keys as things. -/
lemma length_keys : ledger.keys.length = ledger.slots.length := by
  have lengths := congrArg List.length aligned
  rw [List.length_map, List.length_range] at lengths
  rw [keys, Assoc.keys, List.length_map, lengths]

/-- The index says at which position among the keys a key stands. -/
lemma index_get? (key : κ) : ledger.index.get? key = ledger.keys.idxOf? key := by
  rw [Assoc.get?_eq_idxOf?]
  cases found : ledger.index.keys.idxOf? key with
  | none => exact found.symm
  | some position =>
    obtain ⟨lt, -⟩ := List.idxOf?_eq_some_iff.1 found
    have inside : position < ledger.slots.length := aligned.length_keys ▸ lt
    refine Eq.trans ?_ found.symm
    rw [Option.bind_some, ← List.getElem?_map, aligned, List.getElem?_range inside]

/-- At the position of a key a thing stands. -/
lemma position_lt (found : ledger.index.get? key = some position) :
    position < ledger.slots.length := by
  rw [aligned.index_get?] at found
  obtain ⟨lt, -⟩ := List.idxOf?_eq_some_iff.1 found
  exact aligned.length_keys ▸ lt

/-- Two keys do not have the same position. -/
lemma position_inj (found : ledger.index.get? key = some position)
    (found' : ledger.index.get? other = some position) : key = other := by
  rw [aligned.index_get?] at found found'
  obtain ⟨_, here, -⟩ := List.idxOf?_eq_some_iff.1 found
  obtain ⟨_, here', -⟩ := List.idxOf?_eq_some_iff.1 found'
  exact here.symm.trans here'

/-- Index and things stay in step whatever is put. -/
lemma put (key : κ) (thing : α) : (ledger.put key thing).Aligned := by
  cases found : ledger.index.get? key with
  | some position =>
    rw [put_of_present found, Aligned, List.length_set]
    exact aligned
  | none =>
    rw [put_of_absent found, Aligned, List.map_append, aligned, List.length_append]
    exact List.range_succ.symm

/-- What has been put stands for its key, and all else for the others as before. -/
lemma get?_put (key other : κ) (thing : α) :
    (ledger.put key thing).get? other = if other = key then some thing else ledger.get? other := by
  cases found : ledger.index.get? key with
  | some position =>
    have inside := aligned.position_lt found
    rw [put_of_present found]
    dsimp only [Ledger.get?]
    split
    · rename_i same
      rw [same, found, Option.bind_some, List.getElem?_set_self inside]
    · rename_i differs
      refine Option.bind_congr fun place there => ?_
      refine List.getElem?_set_ne fun same => differs ?_
      exact aligned.position_inj (same ▸ there) found
  | none =>
    have free : ledger.index.contains key = false := by rw [Assoc.contains, found]; rfl
    rw [put_of_absent found, ← Assoc.insert_of_absent free]
    dsimp only [Ledger.get?]
    rw [Assoc.get?_insert]
    split
    · rw [Option.bind_some, List.getElem?_concat_length]
    · refine Option.bind_congr fun place there => ?_
      exact List.getElem?_append_left (aligned.position_lt there)

/-- A thing is found for the keys that have a position. -/
lemma isSome_get? (key : κ) : (ledger.get? key).isSome = decide (key ∈ ledger.keys) := by
  rw [keys, ← Assoc.contains_eq, Assoc.contains, Ledger.get?]
  cases found : ledger.index.get? key with
  | none => rfl
  | some position =>
    rw [Option.bind_some, List.getElem?_eq_getElem (aligned.position_lt found)]
    rfl

end Aligned

/-! ## What has been put -/

section

variable {slot : α → κ}

/-- The ledger that comes of putting one thing after the other, each by its key. -/
def ofPuts (slot : α → κ) (puts : List α) : Ledger κ α :=
  puts.foldl (fun ledger put => ledger.put (slot put) put) {}

/-- The last put comes on top of the others. -/
lemma ofPuts_concat (puts : List α) (put : α) :
    ofPuts slot (puts ++ [put]) = (ofPuts slot puts).put (slot put) put := by
  rw [ofPuts, List.foldl_append]
  rfl

/-- Whatever has been put, index and things are in step. -/
lemma aligned_ofPuts (puts : List α) : (ofPuts slot puts).Aligned := by
  induction puts using List.reverseRecOn with
  | nil => exact aligned_empty
  | append_singleton puts put ih =>
    rw [ofPuts_concat]
    exact ih.put _ _

/-- There is one key for all that belongs together, in the order in which it was first put. -/
lemma keys_ofPuts (puts : List α) : (ofPuts slot puts).keys = (puts.map slot).eraseDups := by
  induction puts using List.reverseRecOn with
  | nil => rfl
  | append_singleton puts put ih =>
    rw [ofPuts_concat, keys_put, Assoc.contains_eq, ← keys, ih, List.map_append,
      List.map_singleton, eraseDups_concat]
    simp only [decide_eq_true_eq, List.mem_eraseDups]

/-- For each key there is what has been put for it last. -/
lemma get?_ofPuts (puts : List α) (key : κ) :
    (ofPuts slot puts).get? key = puts.reverse.find? fun put => decide (slot put = key) := by
  induction puts using List.reverseRecOn with
  | nil => rfl
  | append_singleton puts put ih =>
    rw [ofPuts_concat, (aligned_ofPuts puts).get?_put, ih, List.reverse_append,
      List.reverse_singleton, List.singleton_append, List.find?_cons]
    by_cases here : slot put = key
    · simp only [here, if_true, decide_true]
    · simp only [here, Ne.symm here, if_false, decide_false]

/-- Each thing stands at the position of its own key. -/
lemma slots_ofPuts (puts : List α) :
    (ofPuts slot puts).slots.map slot = (ofPuts slot puts).keys := by
  induction puts using List.reverseRecOn with
  | nil => rfl
  | append_singleton puts put ih =>
    rw [ofPuts_concat]
    cases found : (ofPuts slot puts).index.get? (slot put) with
    | some position =>
      rw [put_of_present found, List.map_set, ih]
      rw [(aligned_ofPuts puts).index_get?] at found
      obtain ⟨lt, here, -⟩ := List.idxOf?_eq_some_iff.1 found
      rw [← here]
      exact List.set_getElem_self lt
    | none =>
      rw [put_of_absent found, List.map_append, ih]
      simp [keys, Assoc.keys]

/-- What stands in the ledger has been put. -/
lemma mem_ofPuts {puts : List α} {thing : α} (mem : thing ∈ (ofPuts slot puts).slots) :
    thing ∈ puts := by
  induction puts using List.reverseRecOn with
  | nil => cases mem
  | append_singleton puts put ih =>
    rw [ofPuts_concat] at mem
    obtain rfl | old := mem_put mem
    · simp
    · exact List.mem_append_left _ (ih old)

/-- A key has a position if the thing that stands there belongs to it. -/
lemma position_ofPuts (puts : List α) (key : κ) (position : Nat) :
    (ofPuts slot puts).index.get? key = some position ↔
      ∃ thing, (ofPuts slot puts).slots[position]? = some thing ∧ slot thing = key := by
  have distinct : (ofPuts slot puts).keys.Nodup := by
    rw [keys_ofPuts]
    exact nodup_eraseDups _
  rw [(aligned_ofPuts puts).index_get?, idxOf?_eq_some_iff distinct, ← slots_ofPuts,
    List.getElem?_map, Option.map_eq_some_iff]

end

end Ledger

end Because
