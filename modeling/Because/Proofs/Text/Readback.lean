import Because.Text.Blank
import Because.Text.Numeral
import Because.Text.Split
import Mathlib.Tactic.Common

/-!
# What is written can be read

A number is read from its decimal digits, a text is found behind the start that was put before it,
and lines are found again in the text that they were joined to.
-/

namespace Because.Text

/-- A number is read from its decimal digits. -/
lemma readDigits?_toDigits (n : Nat) : readDigits? (Nat.toDigits 10 n) = some n := by
  have digits : (Nat.toDigits 10 n).all Char.isDigit = true :=
    List.all_eq_true.2 fun _ mem => Nat.isDigit_of_mem_toDigits (by decide) (by decide) mem
  have value : digitsValue (Nat.toDigits 10 n) = n :=
    calc digitsValue (Nat.toDigits 10 n)
      _ = Nat.ofDigitChars 10 (Nat.toDigits 10 n) 0 := Nat.ofDigitChars_eq_foldl.symm
      _ = n := Nat.ofDigitChars_ten_toDigits
  simp [readDigits?, digits, value, Nat.toDigits_ne_nil]

/-- A text that is put behind a start is what follows the start. -/
lemma dropStart?_append (start text : String) : dropStart? start (start ++ text) = some text := by
  simp [dropStart?, ← String.length_toList]

/-- A start is taken from the texts that begin with it, and from no others. -/
lemma dropStart?_eq_none {start text : String} :
    dropStart? start text = none ↔ ¬ start.toList <+: text.toList := by
  rw [dropStart?, ← List.isPrefixOf_iff_prefix]
  split
  · rename_i begins
    exact ⟨nofun, fun not => absurd begins not⟩
  · rename_i not
    exact ⟨fun _ => not, fun _ => rfl⟩

/-! ## Lines -/

/-- Cutting characters into pieces is splitting a list at the members with a property. -/
lemma piecesAt_eq_splitOnP (p : Char → Bool) (chars : List Char) :
    piecesAt p chars = chars.splitOnP p := by
  induction chars with
  | nil => rw [List.splitOnP_nil, piecesAt]
  | cons c rest ih =>
    rw [List.splitOnP_cons_eq_if_modifyHead, piecesAt, ih]
    cases pieces : rest.splitOnP p with
    | nil => exact absurd pieces (List.splitOnP_ne_nil p rest)
    | cons => rfl

/-- Lines are found again in the text that they were joined to. -/
lemma lines_intercalate {lines : List String} (nonempty : lines ≠ [])
    (single : ∀ line ∈ lines, '\n' ∉ line.toList) :
    Text.lines ("\n".intercalate lines) = lines := by
  have each : ∀ chars ∈ lines.map String.toList, '\n' ∉ chars := by
    intro chars mem
    obtain ⟨line, there, rfl⟩ := List.mem_map.1 mem
    exact single line there
  have found := List.splitOn_intercalate '\n' each (mt List.map_eq_nil_iff.1 nonempty)
  rw [List.splitOn] at found
  rw [Text.lines, piecesAt_eq_splitOnP, String.toList_intercalate]
  refine (congrArg (List.map String.ofList) found).trans ?_
  simp

/-- A text without a line feed is one line. -/
lemma lines_of_single {line : String} (single : '\n' ∉ line.toList) : Text.lines line = [line] := by
  have lines := lines_intercalate (List.cons_ne_nil line []) (List.forall_mem_singleton.2 single)
  rwa [String.intercalate_singleton] at lines

end Because.Text
