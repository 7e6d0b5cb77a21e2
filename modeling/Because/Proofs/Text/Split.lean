import Because.Text.Split
import Mathlib.Data.List.Infix
import Mathlib.Tactic.Common

/-!
# What splitting at a separator gives

Parts joined by the separator give the text back. If the separator is not empty, no part contains
it, and there is one part more than occurrences of the separator in the text, where each is sought
after the end of the one before it.
-/

namespace Because.Text

/-- So many occurrences of the separator are found in the text, each as far to the left as it can be
without overlapping the one before it. -/
inductive Finds (separator : List Char) : List Char → Nat → Prop where
  | none {text} : ¬ separator <:+: text → Finds separator text 0
  | next {before after count} : ¬ separator <:+: before ++ separator.dropLast →
    Finds separator after count → Finds separator (before ++ (separator ++ after)) (count + 1)

variable {separator text before part : List Char} {count : Nat} {c : Char}

/-! ## Occurrences -/

/-- Without its last character, a separator has no room for itself. -/
lemma not_infix_dropLast (nonempty : separator ≠ []) : ¬ separator <:+: separator.dropLast := by
  intro occurs
  have longer := occurs.length_le
  rw [List.length_dropLast] at longer
  exact absurd (List.length_pos_iff.2 nonempty) (by omega)

/-- No occurrence begins earlier if none begins there, and none of the later ones does. -/
lemma not_infix_cons {rest : List Char} (here : ¬ separator <+: c :: rest)
    (later : ¬ separator <:+: before) (begins : before <+: rest) :
    ¬ separator <:+: c :: before := by
  rw [List.infix_cons_iff]
  rintro (first | occurs)
  · exact here (first.trans (List.cons_prefix_cons.2 ⟨rfl, begins⟩))
  · exact later occurs

/-- What occurs in a text has a first occurrence. -/
lemma exists_first (nonempty : separator ≠ []) (occurs : separator <:+: text) :
    ∃ before after, text = before ++ (separator ++ after) ∧
      ¬ separator <:+: before ++ separator.dropLast := by
  induction text with
  | nil => exact absurd (List.infix_nil.1 occurs) nonempty
  | cons c rest ih =>
    by_cases here : separator <+: c :: rest
    · obtain ⟨after, same⟩ := here
      exact ⟨[], after, same.symm, not_infix_dropLast nonempty⟩
    · obtain ⟨before, after, rfl, first⟩ := ih ((List.infix_cons_iff.1 occurs).resolve_left here)
      refine ⟨c :: before, after, rfl, not_infix_cons here first ?_⟩
      exact (List.prefix_append_right_inj before).2
        ((List.dropLast_prefix separator).trans (List.prefix_append ..))

/-- Every text has some number of occurrences of a separator that is not empty. -/
lemma exists_finds (nonempty : separator ≠ []) (text : List Char) :
    ∃ count, Finds separator text count := by
  induction size : text.length using Nat.strong_induction_on generalizing text with
  | _ n ih =>
    by_cases occurs : separator <:+: text
    · obtain ⟨before, after, rfl, first⟩ := exists_first nonempty occurs
      have shorter : after.length < n := by
        have positive := List.length_pos_iff.2 nonempty
        simp only [List.length_append] at size
        omega
      obtain ⟨count, finds⟩ := ih _ shorter after rfl
      exact ⟨count + 1, .next first finds⟩
    · exact ⟨0, .none occurs⟩

/-! ## Parts -/

/-- Characters that belong to an occurrence are skipped. -/
lemma cutAt_drop (separator : List Char) (skip : Nat) (text : List Char) :
    cutAt separator skip text = cutAt separator 0 (text.drop skip) := by
  induction text generalizing skip with
  | nil => cases skip <;> rfl
  | cons c rest ih =>
    cases skip with
    | zero => rfl
    | succ skip => exact ih skip

/-- An occurrence ends a part. -/
lemma cutAt_here (nonempty : separator ≠ []) (after : List Char) :
    cutAt separator 0 (separator ++ after) = [] :: cutAt separator 0 after := by
  obtain ⟨c, rest, rfl⟩ := List.exists_cons_of_ne_nil nonempty
  have here : (c :: rest).isPrefixOf (c :: (rest ++ after)) = true :=
    List.isPrefixOf_iff_prefix.2 (List.prefix_append (c :: rest) after)
  rw [List.cons_append, cutAt, if_pos here, cutAt_drop, List.length_cons, Nat.add_sub_cancel,
    List.drop_left]

/-- A character with which no occurrence begins belongs to the part that goes on after it. -/
lemma cutAt_cons {rest : List Char} {parts : List (List Char)} (here : ¬ separator <+: c :: rest)
    (others : cutAt separator 0 rest = part :: parts) :
    cutAt separator 0 (c :: rest) = (c :: part) :: parts := by
  rw [cutAt, if_neg (mt List.isPrefixOf_iff_prefix.1 here), others]

/-- What comes before the first occurrence is the first part. -/
lemma cutAt_next (nonempty : separator ≠ [])
    (first : ¬ separator <:+: before ++ separator.dropLast) (after : List Char) :
    cutAt separator 0 (before ++ (separator ++ after)) = before :: cutAt separator 0 after := by
  induction before with
  | nil => exact cutAt_here nonempty after
  | cons c before ih =>
    rw [List.cons_append, List.infix_cons_iff, not_or] at first
    refine cutAt_cons (fun here => first.1 ?_) (ih first.2)
    refine List.prefix_of_prefix_length_le here (List.cons_prefix_cons.2 ⟨rfl, ?_⟩) ?_
    · exact (List.prefix_append_right_inj before).2
        ((List.dropLast_prefix separator).trans (List.prefix_append ..))
    · simp only [List.length_cons, List.length_append, List.length_dropLast]
      omega

/-- A text without the separator is one part. -/
lemma cutAt_none (free : ¬ separator <:+: text) : cutAt separator 0 text = [text] := by
  induction text with
  | nil => rfl
  | cons c rest ih =>
    rw [List.infix_cons_iff, not_or] at free
    exact cutAt_cons free.1 (ih free.2)

/-- There is always a part. -/
lemma cutAt_ne_nil (nonempty : separator ≠ []) (text : List Char) :
    cutAt separator 0 text ≠ [] := by
  obtain ⟨count, finds⟩ := exists_finds nonempty text
  cases finds with
  | none free =>
    rw [cutAt_none free]
    exact List.cons_ne_nil _ _
  | next first =>
    rw [cutAt_next nonempty first]
    exact List.cons_ne_nil _ _

namespace Finds

/-- There is one part more than there are occurrences. -/
lemma length_cutAt (nonempty : separator ≠ []) (h : Finds separator text count) :
    (cutAt separator 0 text).length = count + 1 := by
  induction h with
  | none free => rw [cutAt_none free, List.length_singleton]
  | next first _ ih => rw [cutAt_next nonempty first, List.length_cons, ih]

/-- The parts, joined by the separator, are the text. -/
lemma intercalate_cutAt (nonempty : separator ≠ []) (h : Finds separator text count) :
    separator.intercalate (cutAt separator 0 text) = text := by
  induction h with
  | none free => rw [cutAt_none free, List.intercalate_singleton]
  | @next before after _ first _ ih =>
    obtain ⟨part, parts, same⟩ := List.exists_cons_of_ne_nil (cutAt_ne_nil nonempty after)
    rw [cutAt_next nonempty first, same, List.intercalate_cons_cons, ← same, ih,
      List.append_assoc]

/-- No part contains the separator. -/
lemma not_infix_cutAt (nonempty : separator ≠ []) (h : Finds separator text count) :
    ∀ part ∈ cutAt separator 0 text, ¬ separator <:+: part := by
  induction h with
  | none free =>
    rw [cutAt_none free]
    exact List.forall_mem_singleton.2 free
  | @next before after _ first _ ih =>
    rw [cutAt_next nonempty first]
    refine List.forall_mem_cons.2 ⟨fun occurs => first ?_, ih⟩
    exact occurs.trans (List.prefix_append ..).isInfix

end Finds

/-! ## Texts -/

/-- Nothing comes between parts that are joined by the empty separator. -/
lemma nil_intercalate (parts : List (List Char)) : [].intercalate parts = parts.flatten := by
  induction parts with
  | nil => rfl
  | cons part rest ih =>
    cases rest with
    | nil => rw [List.intercalate_singleton, List.flatten_singleton]
    | cons next rest =>
      rw [List.intercalate_cons_cons, List.append_nil, ih]
      rfl

/-- The parts, joined by the separator, are the text, also if the separator is empty. -/
lemma intercalate_splitChars (separator text : List Char) :
    separator.intercalate (splitChars separator text) = text := by
  cases separator with
  | nil =>
    have singles : (text.map fun c => [c]).flatten = text := by
      rw [← List.flatMap_def, List.flatMap_singleton']
    rw [nil_intercalate, splitChars, List.isEmpty_nil, if_pos rfl, List.cons_append,
      List.flatten_cons, List.flatten_append, singles, List.flatten_singleton, List.append_nil,
      List.nil_append]
  | cons c rest =>
    obtain ⟨count, finds⟩ := exists_finds (List.cons_ne_nil c rest) text
    exact finds.intercalate_cutAt (List.cons_ne_nil c rest)

variable {sep content : String}

/-- A separator that is not empty has a character. -/
lemma toList_ne_nil (nonempty : sep ≠ "") : sep.toList ≠ [] :=
  mt String.toList_eq_nil_iff.1 nonempty

/-- Parts joined by the separator give the text back. -/
lemma intercalate_split (sep content : String) : sep.intercalate (split sep content) = content := by
  have parts : (split sep content).map String.toList =
      splitChars sep.toList content.toList := by
    have same : String.toList ∘ String.ofList = id := funext fun _ => String.toList_ofList
    rw [split, List.map_map, same, List.map_id]
  rw [← String.toList_inj, String.toList_intercalate, parts, intercalate_splitChars]

/-- At a separator that is not empty, a text is cut at its occurrences. -/
lemma split_of_ne (nonempty : sep ≠ "") (content : String) :
    split sep content = (cutAt sep.toList 0 content.toList).map String.ofList := by
  rw [split, splitChars, if_neg (mt List.isEmpty_iff.1 (toList_ne_nil nonempty))]

/-- No part contains the separator. -/
lemma not_infix_split (nonempty : sep ≠ "") {part : String} (mem : part ∈ split sep content) :
    ¬ sep.toList <:+: part.toList := by
  obtain ⟨count, finds⟩ := exists_finds (toList_ne_nil nonempty) content.toList
  rw [split_of_ne nonempty] at mem
  obtain ⟨chars, cut, rfl⟩ := List.mem_map.1 mem
  rw [String.toList_ofList]
  exact finds.not_infix_cutAt (toList_ne_nil nonempty) chars cut

/-- There is one part more than occurrences that are found. -/
lemma length_split (nonempty : sep ≠ "") (content : String) (count : Nat) :
    Finds sep.toList content.toList count ↔ (split sep content).length = count + 1 := by
  have length {count : Nat} (finds : Finds sep.toList content.toList count) :
      (split sep content).length = count + 1 := by
    rw [split_of_ne nonempty, List.length_map, finds.length_cutAt (toList_ne_nil nonempty)]
  refine ⟨length, fun counted => ?_⟩
  obtain ⟨other, finds⟩ := exists_finds (toList_ne_nil nonempty) content.toList
  obtain rfl : other = count := Nat.succ.inj ((length finds).symm.trans counted)
  exact finds

/-- The parts of a text at a separator: joined by the separator they are the text; and if the
separator is not empty, no part contains it, and it is found once less than there are parts. -/
structure Parts (separator text : String) (parts : List String) : Prop where
  joined : separator.intercalate parts = text
  free : separator ≠ "" → ∀ part ∈ parts, ¬ separator.toList <:+: part.toList
  counted : separator ≠ "" → ∀ count,
    Finds separator.toList text.toList count ↔ parts.length = count + 1

/-- A text is split into its parts. -/
lemma split_parts (separator text : String) : Parts separator text (split separator text) where
  joined := intercalate_split separator text
  free nonempty _ mem := not_infix_split nonempty mem
  counted nonempty := length_split nonempty text

end Because.Text
