import Because.Proofs.Text.Readback
import Mathlib.Data.List.DropRight
import Mathlib.Data.Nat.Digits.Defs

/-!
# What numerals denote

A numeral is one digit or more, and perhaps a sign before them. The texts from which an integer is
read are the numerals of integers of 64 bits, with any blanks around them; every such integer is
read from the numeral that it is shown as.
-/

namespace Because.Text

/-- One digit or more, and nothing else. -/
structure Digits (chars : List Char) : Prop where
  any : chars ≠ []
  all : ∀ c ∈ chars, c.isDigit = true

/-- The number that digits denote: each of them counts ten times as much as the one on its right. -/
def positional (digits : List Char) : Nat := Nat.ofDigits 10 (digits.reverse.map digitValue)

/-- The characters are a decimal numeral for the integer. -/
inductive Numeral : List Char → Int → Prop where
  | bare {digits} : Digits digits → Numeral digits (positional digits)
  | plus {digits} : Digits digits → Numeral ('+' :: digits) (positional digits)
  | minus {digits} : Digits digits → Numeral ('-' :: digits) (-(positional digits : Int))

/-- The characters are a decimal numeral for the natural number; the only sign is `+`. -/
inductive Unsigned : List Char → Nat → Prop where
  | bare {digits} : Digits digits → Unsigned digits (positional digits)
  | plus {digits} : Digits digits → Unsigned ('+' :: digits) (positional digits)

/-- The text is a numeral for the integer, with any blanks around it, and the integer has 64
bits. -/
structure Spells (text : String) (n : Int) : Prop where
  numeral : ∃ before chars after, text.toList = before ++ chars ++ after ∧
    (∀ c ∈ before, isBlank c = true) ∧ (∀ c ∈ after, isBlank c = true) ∧ Numeral chars n
  low : -2 ^ 63 ≤ n
  high : n < 2 ^ 63

variable {chars digits : List Char} {text : String} {n : Int}

/-! ## Digits -/

/-- The value of digits is the number that they write in the decimal system. -/
lemma digitsValue_eq (digits : List Char) : digitsValue digits = positional digits := by
  rw [positional, Nat.ofDigits_eq_foldr, List.foldr_map, List.foldr_reverse, digitsValue]
  refine congrArg (fun f => digits.foldl f 0) (funext fun value => funext fun c => ?_)
  exact Nat.add_comm ..

/-- Digits, at least one and nothing else, are read as the number that they write. -/
lemma readDigits?_eq_some {value : Nat} :
    readDigits? chars = some value ↔ Digits chars ∧ positional chars = value := by
  rw [readDigits?, digitsValue_eq]
  split
  · rename_i fine
    simp only [Bool.and_eq_true, Bool.not_eq_true', List.isEmpty_eq_false_iff,
      List.all_eq_true] at fine
    rw [Option.some.injEq]
    exact ⟨fun same => ⟨⟨fine.1, fine.2⟩, same⟩, fun h => h.2⟩
  · rename_i other
    simp only [Bool.and_eq_true, Bool.not_eq_true', List.isEmpty_eq_false_iff,
      List.all_eq_true] at other
    refine ⟨fun none => ?_, fun h => absurd ⟨h.1.any, h.1.all⟩ other⟩
    cases none

/-- No sign is a digit. -/
lemma Digits.head_ne {c : Char} {rest : List Char} (h : Digits (c :: rest)) :
    c ≠ '+' ∧ c ≠ '-' := by
  have digit := h.all c List.mem_cons_self
  constructor
  · rintro rfl
    cases digit
  · rintro rfl
    cases digit

/-- An integer of 64 bits is read from its numerals, and from nothing else. -/
lemma readInt64?_eq_some :
    readInt64? text = some n ↔ Numeral text.toList n ∧ isInt64 n = true := by
  rw [readInt64?]
  generalize text.toList = chars
  rw [Option.filter_eq_some_iff]
  refine and_congr_left fun _ => ?_
  split
  -- A sign decides which constructor wrote the numeral: no digit is a sign.
  · rename_i rest
    constructor
    · intro read
      obtain ⟨value, found, rfl⟩ := Option.map_eq_some_iff.1 read
      obtain ⟨digits, rfl⟩ := readDigits?_eq_some.1 found
      exact .plus digits
    · intro numeral
      cases numeral with
      | bare digits => exact absurd rfl digits.head_ne.1
      | plus digits => rw [readDigits?_eq_some.2 ⟨digits, rfl⟩]; rfl
  · rename_i rest
    constructor
    · intro read
      obtain ⟨value, found, rfl⟩ := Option.map_eq_some_iff.1 read
      obtain ⟨digits, rfl⟩ := readDigits?_eq_some.1 found
      exact .minus digits
    · intro numeral
      cases numeral with
      | bare digits => exact absurd rfl digits.head_ne.2
      | minus digits => rw [readDigits?_eq_some.2 ⟨digits, rfl⟩]; rfl
  · rename_i plus minus
    constructor
    · intro read
      obtain ⟨value, found, rfl⟩ := Option.map_eq_some_iff.1 read
      obtain ⟨digits, rfl⟩ := readDigits?_eq_some.1 found
      exact .bare digits
    · intro numeral
      cases numeral with
      | bare digits => rw [readDigits?_eq_some.2 ⟨digits, rfl⟩]; rfl
      | plus digits => exact absurd rfl (plus _)
      | minus digits => exact absurd rfl (minus _)

/-- A natural number below a bound is read from its numerals without a minus, and from nothing
else. -/
lemma readNat?_eq_some {bound value : Nat} :
    readNat? bound text = some value ↔ Unsigned text.toList value ∧ value < bound := by
  rw [readNat?]
  generalize text.toList = chars
  rw [Option.filter_eq_some_iff, decide_eq_true_eq]
  refine and_congr_left fun _ => ?_
  split
  · rename_i rest
    constructor
    · intro read
      obtain ⟨digits, rfl⟩ := readDigits?_eq_some.1 read
      exact .plus digits
    · intro numeral
      cases numeral with
      | bare digits => exact absurd rfl digits.head_ne.1
      | plus digits => exact readDigits?_eq_some.2 ⟨digits, rfl⟩
  · rename_i plus
    constructor
    · intro read
      obtain ⟨digits, rfl⟩ := readDigits?_eq_some.1 read
      exact .bare digits
    · intro numeral
      cases numeral with
      | bare digits => exact readDigits?_eq_some.2 ⟨digits, rfl⟩
      | plus digits => exact absurd rfl (plus _)

/-! ## Blanks around numerals -/

/-- Digits and signs are no blanks. -/
lemma Digits.not_blank (h : Digits digits) {c : Char} (mem : c ∈ digits) : isBlank c = false := by
  have digit := h.all c mem
  rw [Char.isDigit, Bool.and_eq_true, decide_eq_true_eq, decide_eq_true_eq] at digit
  obtain ⟨low, high⟩ := digit
  have low : 48 ≤ c.toNat := low
  have high : c.toNat ≤ 57 := high
  simp only [isBlank, blankRanges, List.any_cons, List.any_nil, Bool.or_false, Bool.or_eq_false_iff,
    Bool.and_eq_false_iff, decide_eq_false_iff_not]
  omega

/-- There are no blanks in a numeral. -/
lemma Numeral.not_blank (h : Numeral chars n) {c : Char} (mem : c ∈ chars) :
    isBlank c = false := by
  cases h with
  | bare digits => exact digits.not_blank mem
  | plus digits =>
    obtain rfl | mem := List.mem_cons.1 mem
    · decide
    · exact digits.not_blank mem
  | minus digits =>
    obtain rfl | mem := List.mem_cons.1 mem
    · decide
    · exact digits.not_blank mem

/-- A numeral has characters. -/
lemma Numeral.ne_nil (h : Numeral chars n) : chars ≠ [] := by
  cases h with
  | bare digits => exact digits.any
  | plus | minus => exact List.cons_ne_nil _ _

/-- Without the blanks at its ends, a text is what stands between blanks in it. -/
lemma trim_spec (text : String) : ∃ before after,
    text.toList = before ++ (trim text).toList ++ after ∧
      (∀ c ∈ before, isBlank c = true) ∧ ∀ c ∈ after, isBlank c = true := by
  let rest := text.toList.dropWhile isBlank
  refine ⟨text.toList.takeWhile isBlank, rest.rtakeWhile isBlank, ?_, ?_, ?_⟩
  · have inner : (trim text).toList ++ rest.rtakeWhile isBlank = rest := by
      rw [trim, String.toList_ofList]
      exact List.rdropWhile_append_rtakeWhile ..
    rw [List.append_assoc, inner, List.takeWhile_append_dropWhile]
  · exact fun _ => List.mem_takeWhile_imp
  · exact fun _ => List.mem_rtakeWhile_imp

/-- What stands between blanks and neither begins nor ends with one is the text without the blanks
at its ends. -/
lemma trim_eq {before after : List Char} (whole : text.toList = before ++ chars ++ after)
    (blank : ∀ c ∈ before, isBlank c = true) (blank' : ∀ c ∈ after, isBlank c = true)
    (any : chars ≠ []) (solid : ∀ c ∈ chars, isBlank c = false) : (trim text).toList = chars := by
  have begins : text.toList.dropWhile isBlank = chars ++ after := by
    rw [whole, List.append_assoc, List.dropWhile_append_of_pos blank]
    obtain ⟨c, rest, rfl⟩ := List.exists_cons_of_ne_nil any
    exact List.dropWhile_cons_of_neg (by rw [solid c List.mem_cons_self]; decide)
  have ends : (chars ++ after).rdropWhile isBlank = chars := by
    have reversed : ∀ c ∈ after.reverse, isBlank c = true :=
      fun c mem => blank' c (List.mem_reverse.1 mem)
    rw [List.rdropWhile, List.reverse_append, List.dropWhile_append_of_pos reversed]
    obtain ⟨c, rest, same⟩ := List.exists_cons_of_ne_nil (List.reverse_eq_nil_iff.not.2 any)
    have last : isBlank c = false := by
      refine solid c (List.mem_reverse.1 ?_)
      rw [same]
      exact List.mem_cons_self
    rw [same, List.dropWhile_cons_of_neg (by rw [last]; decide), ← same, List.reverse_reverse]
  rw [trim, String.toList_ofList, begins]
  exact ends

/-- A number fits into 64 bits exactly if it lies between the bounds. -/
lemma isInt64_iff : isInt64 n = true ↔ -2 ^ 63 ≤ n ∧ n < 2 ^ 63 := by
  rw [isInt64, Bool.and_eq_true, decide_eq_true_eq, decide_eq_true_eq, minInt64, maxInt64]
  omega

/-- Without the blanks at its ends, a text is read as the integer that it spells. -/
lemma readInt64?_trim : readInt64? (trim text) = some n ↔ Spells text n := by
  rw [readInt64?_eq_some, isInt64_iff]
  constructor
  · rintro ⟨numeral, low, high⟩
    obtain ⟨before, after, whole, blank, blank'⟩ := trim_spec text
    exact ⟨⟨before, _, after, whole, blank, blank', numeral⟩, low, high⟩
  · rintro ⟨⟨before, chars, after, whole, blank, blank', numeral⟩, low, high⟩
    have solid : ∀ c ∈ chars, isBlank c = false := fun c mem => numeral.not_blank mem
    rw [trim_eq whole blank blank' numeral.ne_nil solid]
    exact ⟨numeral, low, high⟩

/-! ## Integers as they are shown -/

/-- The digits of a number write the number. -/
lemma positional_toDigits (n : Nat) : positional (Nat.toDigits 10 n) = n :=
  (readDigits?_eq_some.1 (readDigits?_toDigits n)).2

/-- A number is written in digits, at least one. -/
lemma digits_toDigits (n : Nat) : Digits (Nat.toDigits 10 n) :=
  (readDigits?_eq_some.1 (readDigits?_toDigits n)).1

/-- A natural number is shown as a numeral for it. -/
lemma unsigned_toString (n : Nat) : Unsigned (toString n).toList n := by
  have shown : (toString n).toList = Nat.toDigits 10 n := Nat.toList_repr
  have numeral := Unsigned.bare (digits_toDigits n)
  rwa [positional_toDigits, ← shown] at numeral

/-- An integer is shown as a numeral for it. -/
lemma numeral_toString (n : Int) : Numeral (toString n).toList n := by
  cases n with
  | ofNat n =>
    have shown : (toString (Int.ofNat n)).toList = Nat.toDigits 10 n := Nat.toList_repr
    have numeral := Numeral.bare (digits_toDigits n)
    rw [positional_toDigits] at numeral
    rwa [shown]
  | negSucc n =>
    have shown : (toString (Int.negSucc n)).toList = '-' :: Nat.toDigits 10 (n + 1) := by
      have same : toString (Int.negSucc n) = "-" ++ Nat.repr (n + 1) := rfl
      rw [same, String.toList_append, Nat.toList_repr]
      rfl
    have numeral := Numeral.minus (digits_toDigits (n + 1))
    rw [positional_toDigits] at numeral
    rw [shown]
    exact numeral

/-- An integer of 64 bits is spelled by what it is shown as. -/
lemma spells_toString (fits : isInt64 n = true) : Spells (toString n) n := by
  obtain ⟨low, high⟩ := isInt64_iff.1 fits
  exact ⟨⟨[], _, [], by simp, List.forall_mem_nil _, List.forall_mem_nil _, numeral_toString n⟩,
    low, high⟩

end Because.Text
