import Mathlib.Data.List.Induction
import Mathlib.Data.List.Nodup
import Mathlib.Tactic.Common

/-!
# First occurrences

Items of a list without their later repetitions: what is left has no repetitions, and then the
position of an item is where it stands.
-/

namespace Because

variable {α : Type} [DecidableEq α]

/-- The first occurrences of items that end with one more: this one counts if it is new. -/
lemma eraseDups_concat (items : List α) (item : α) :
    (items ++ [item]).eraseDups =
      if item ∈ items then items.eraseDups else items.eraseDups ++ [item] := by
  rw [List.eraseDups_append]
  by_cases mem : item ∈ items
  · simp [List.removeAll, mem]
  · simp [List.removeAll, mem, List.eraseDups_cons]

/-- First occurrences have no repetitions. -/
lemma nodup_eraseDups (items : List α) : items.eraseDups.Nodup := by
  induction items using List.reverseRecOn with
  | nil => exact List.nodup_nil
  | append_singleton items item ih =>
    rw [eraseDups_concat]
    split
    · exact ih
    · refine List.nodup_append.2 ⟨ih, List.nodup_singleton item, ?_⟩
      rintro other mem last here rfl
      rw [List.mem_singleton.1 here] at mem
      exact ‹item ∉ items› (List.mem_eraseDups.1 mem)

/-- In a list without repetitions, the position of an item is where it stands. -/
lemma idxOf?_eq_some_iff {items : List α} (distinct : items.Nodup) {item : α} {position : Nat} :
    items.idxOf? item = some position ↔ items[position]? = some item := by
  rw [List.idxOf?_eq_some_iff]
  constructor
  · rintro ⟨lt, here, -⟩
    rw [List.getElem?_eq_getElem lt, here]
  · intro found
    obtain ⟨lt, here⟩ := List.getElem?_eq_some_iff.1 found
    refine ⟨lt, here, fun earlier before same => ?_⟩
    have twice := distinct.getElem_inj_iff.1 (same.trans here.symm)
    omega

end Because
