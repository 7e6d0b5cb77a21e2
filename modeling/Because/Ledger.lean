import Because.Assoc

/-!
# Ledgers

A ledger keeps things in the order in which their keys were first put, and an index that says at
which position the thing of a key stands. The two are kept apart: putting a thing again replaces it
where it stands and leaves the index alone.
-/

namespace Because

/-- Things in the order of their keys, and an index of their positions. -/
structure Ledger (κ α : Type) where
  index : Assoc κ Nat := []
  slots : List α := []
  deriving DecidableEq, Inhabited

namespace Ledger

variable {κ α β : Type}

/-- The keys that have a position. -/
def keys (ledger : Ledger κ α) : List κ := ledger.index.keys

/-- How many things the ledger keeps. -/
def length (ledger : Ledger κ α) : Nat := ledger.slots.length

def isEmpty (ledger : Ledger κ α) : Bool := ledger.slots.isEmpty

/-- The same keys, with other things in the same places. -/
def map (f : α → β) (ledger : Ledger κ α) : Ledger κ β := ⟨ledger.index, ledger.slots.map f⟩

variable [DecidableEq κ]

/-- What stands at the position of a key. -/
def get? (ledger : Ledger κ α) (key : κ) : Option α :=
  (ledger.index.get? key).bind (ledger.slots[·]?)

/-- Put a thing where the key has its position; a new key gets the next one. -/
def put (ledger : Ledger κ α) (key : κ) (thing : α) : Ledger κ α :=
  match ledger.index.get? key with
  | some position => { ledger with slots := ledger.slots.set position thing }
  | none => ⟨ledger.index.insert key ledger.slots.length, ledger.slots ++ [thing]⟩

variable {ledger : Ledger κ α} {key other : κ} {thing : α} {position : Nat}

/-- Where a key has a position, the thing there is replaced. -/
theorem put_of_present (found : ledger.index.get? key = some position) (thing : α) :
    ledger.put key thing = { ledger with slots := ledger.slots.set position thing } := by
  rw [put, found]

/-- A thing with a new key goes to the end, and so does the key. -/
theorem put_of_absent (absent : ledger.index.get? key = none) (thing : α) :
    ledger.put key thing =
      ⟨ledger.index ++ [(key, ledger.slots.length)], ledger.slots ++ [thing]⟩ := by
  have free : ledger.index.contains key = false := by rw [Assoc.contains, absent]; rfl
  rw [put, absent, Assoc.insert_of_absent free]

/-- What is found stands in the ledger. -/
theorem mem_of_get? (found : ledger.get? key = some thing) : thing ∈ ledger.slots := by
  obtain ⟨position, -, there⟩ := Option.bind_eq_some_iff.1 found
  exact List.mem_of_getElem? there

/-- What stands in the ledger after a thing has been put is this thing, or has stood there. -/
theorem mem_put {stored : α} (mem : stored ∈ (ledger.put key thing).slots) :
    stored = thing ∨ stored ∈ ledger.slots := by
  cases found : ledger.index.get? key with
  | some position =>
    rw [put_of_present found] at mem
    exact (List.mem_or_eq_of_mem_set mem).symm
  | none =>
    rw [put_of_absent found] at mem
    exact (List.mem_append.1 mem).symm.imp_left List.mem_singleton.1

/-- A new key comes after the others, and one that has a position keeps it. -/
theorem keys_put (ledger : Ledger κ α) (key : κ) (thing : α) :
    (ledger.put key thing).keys =
      if ledger.index.contains key then ledger.keys else ledger.keys ++ [key] := by
  rw [Assoc.contains]
  cases found : ledger.index.get? key with
  | some position =>
    rw [put_of_present found]
    rfl
  | none =>
    rw [put_of_absent found]
    exact List.map_append

/-- Putting a thing gives no other key a position than its own. -/
theorem mem_keys_put (mem : other ∈ (ledger.put key thing).keys) :
    other = key ∨ other ∈ ledger.keys := by
  rw [keys_put] at mem
  split at mem
  · exact .inr mem
  · exact (List.mem_append.1 mem).symm.imp_left List.mem_singleton.1

end Ledger

end Because
