import Because.Proofs.Text.Numerals

/-!
# The words of a line

Every text is made of words, with blanks around and between them, in exactly one way; these are the
words that are read from it. What blanks there are makes no difference to them.
-/

namespace Because.Text

/-- Blanks, and nothing else. -/
def Blank (chars : List Char) : Prop := ∀ c ∈ chars, isBlank c = true

/-- One character or more, and no blank among them. -/
structure Word (chars : List Char) : Prop where
  any : chars ≠ []
  solid : ∀ c ∈ chars, isBlank c = false

/-- The characters are these words from left to right, with any blanks around them and one or more
between them. -/
inductive Spaced : List Char → List String → Prop where
  | blanks {gap} : Blank gap → Spaced gap []
  | last {gap} {word : String} : Blank gap → Word word.toList →
    Spaced (gap ++ word.toList) [word]
  | next {gap} {word : String} {c rest words} : Blank gap → Word word.toList →
    isBlank c = true → Spaced rest words → Spaced (gap ++ (word.toList ++ c :: rest)) (word :: words)

/-- What is left of the text without the blanks at its two ends. -/
structure Trims (text inner : String) : Prop where
  parts : ∃ before after, text.toList = before ++ inner.toList ++ after ∧
    Blank before ∧ Blank after
  begins : ∀ c, inner.toList.head? = some c → isBlank c = false
  ends : ∀ c, inner.toList.getLast? = some c → isBlank c = false

variable {chars gap word rest : List Char} {text : String} {words : List String} {c : Char}

/-! ## Words that are read -/

/-- The blank-free stretches of a text, from left to right. -/
def stretches (chars : List Char) : List (List Char) :=
  (piecesAt isBlank chars).filter fun piece => !piece.isEmpty

/-- A blank before a text belongs to no stretch. -/
lemma stretches_cons (blank : isBlank c = true) (rest : List Char) :
    stretches (c :: rest) = stretches rest := by
  rw [stretches, piecesAt, if_pos blank, List.filter_cons_of_neg (by simp), stretches]

/-- Blanks before a text belong to no stretch. -/
lemma stretches_gap (blank : Blank gap) (rest : List Char) :
    stretches (gap ++ rest) = stretches rest := by
  induction gap with
  | nil => rfl
  | cons c gap ih =>
    obtain ⟨first, others⟩ := List.forall_mem_cons.1 blank
    rw [List.cons_append, stretches_cons first, ih others]

/-- A word is one stretch. -/
lemma stretches_last (h : Word word) : stretches word = [word] := by
  rw [stretches, piecesAt_eq_splitOnP, List.splitOnP_eq_singleton h.solid]
  exact List.filter_cons_of_pos (by simp [h.any])

/-- A blank ends a word. -/
lemma stretches_next (h : Word word) (blank : isBlank c = true) (rest : List Char) :
    stretches (word ++ c :: rest) = word :: stretches rest := by
  rw [stretches, stretches, piecesAt_eq_splitOnP, piecesAt_eq_splitOnP,
    List.splitOnP_append_cons_of_forall_mem h.solid c blank]
  exact List.filter_cons_of_pos (by simp [h.any])

/-- The words of a text are read from it, whatever blanks there are. -/
lemma Spaced.stretches (h : Spaced chars words) :
    (stretches chars).map String.ofList = words := by
  induction h with
  | @blanks gap blank =>
    have none := stretches_gap blank []
    rw [List.append_nil] at none
    rw [none]
    rfl
  | last blank solid =>
    rw [stretches_gap blank, stretches_last solid, List.map_singleton, String.ofList_toList]
  | next blank solid ends _ ih =>
    rw [stretches_gap blank, stretches_next solid ends, List.map_cons, String.ofList_toList, ih]

/-- The words of a text are those that are spaced in it. -/
lemma Spaced.words_eq (h : Spaced text.toList words) : Text.words text = words := h.stretches

/-! ## Words that there are -/

/-- The blanks at the start of characters are blanks. -/
lemma blank_takeWhile (chars : List Char) : Blank (chars.takeWhile isBlank) :=
  fun _ => List.mem_takeWhile_imp

/-- What comes after blanks begins with a word. -/
lemma word_takeWhile (solid : isBlank c = false) (rest : List Char) :
    Word ((c :: rest).takeWhile (!isBlank ·)) where
  any := by
    rw [List.takeWhile_cons_of_pos (by rw [solid]; rfl)]
    exact List.cons_ne_nil _ _
  solid := by
    intro d mem
    have not := List.mem_takeWhile_imp mem
    rwa [Bool.not_eq_true'] at not

/-- What comes after the characters with a property does not have it. -/
lemma not_of_dropWhile {p : Char → Bool} (here : chars.dropWhile p = c :: rest) : p c = false := by
  have not := List.head?_dropWhile_not p chars
  rw [here] at not
  exact not

/-- All characters are words with blanks around them. -/
lemma exists_spaced (chars : List Char) : ∃ words, Spaced chars words := by
  induction size : chars.length using Nat.strong_induction_on generalizing chars with
  | _ n ih =>
    have begins := List.takeWhile_append_dropWhile (p := isBlank) (l := chars)
    have blank := blank_takeWhile chars
    cases behind : chars.dropWhile isBlank with
    | nil =>
      rw [behind, List.append_nil] at begins
      exact ⟨[], begins ▸ .blanks blank⟩
    | cons c rest =>
      have word := word_takeWhile (not_of_dropWhile behind) rest
      have goes := List.takeWhile_append_dropWhile (p := (!isBlank ·)) (l := c :: rest)
      rw [behind, ← goes] at begins
      rw [← String.toList_ofList (l := (c :: rest).takeWhile (!isBlank ·))] at word begins
      cases after : (c :: rest).dropWhile (!isBlank ·) with
      | nil =>
        rw [after, List.append_nil] at begins
        rw [← begins]
        exact ⟨_, .last blank word⟩
      | cons d later =>
        have ends : isBlank d = true := by
          have not := not_of_dropWhile after
          rwa [Bool.not_eq_false'] at not
        rw [after] at begins
        have shorter : later.length < n := by
          rw [← size, ← begins]
          simp only [List.length_append, List.length_cons]
          omega
        obtain ⟨words, spaced⟩ := ih _ shorter later rfl
        rw [← begins]
        exact ⟨_, .next blank word ends spaced⟩

/-- The words that are read from a text are its words. -/
lemma spaced_words (text : String) : Spaced text.toList (Text.words text) := by
  obtain ⟨words, spaced⟩ := exists_spaced text.toList
  rwa [spaced.words_eq]

/-- Blanks at the end make no difference to the words. -/
lemma Spaced.append {ends : List Char} (h : Spaced chars words) (blank : Blank ends) :
    Spaced (chars ++ ends) words := by
  induction h with
  | blanks gap => exact .blanks (List.forall_mem_append.2 ⟨gap, blank⟩)
  | last gap word =>
    cases ends with
    | nil =>
      rw [List.append_nil]
      exact .last gap word
    | cons c ends =>
      obtain ⟨first, others⟩ := List.forall_mem_cons.1 blank
      rw [List.append_assoc]
      exact .next gap word first (.blanks others)
  | next gap word ends _ ih =>
    rw [List.append_assoc, List.append_assoc]
    exact .next gap word ends ih

/-! ## Texts without their outer blanks -/

/-- Trimming a text leaves what is within its blanks. -/
lemma trim_trims (text : String) : Trims text (trim text) where
  parts := trim_spec text
  begins := by
    intro c first
    let rest := text.toList.dropWhile isBlank
    have inner : (trim text).toList = rest.rdropWhile isBlank := String.toList_ofList
    have starts : (trim text).toList <+: rest := inner ▸ List.rdropWhile_prefix isBlank rest
    obtain ⟨after, whole⟩ := starts
    obtain ⟨tail, same⟩ := List.head?_eq_some_iff.1 first
    rw [same, List.cons_append] at whole
    exact not_of_dropWhile whole.symm
  ends := by
    intro c last
    have inner : (trim text).toList = (text.toList.dropWhile isBlank).rdropWhile isBlank :=
      String.toList_ofList
    rw [inner] at last
    obtain ⟨some, same⟩ := List.getLast?_eq_some_iff.1 last
    have nonempty : (text.toList.dropWhile isBlank).rdropWhile isBlank ≠ [] := by
      rw [same]
      exact List.append_ne_nil_of_right_ne_nil _ (List.cons_ne_nil _ _)
    have not := List.rdropWhile_last_not isBlank _ nonempty
    rw [List.getLast?_eq_some_getLast nonempty, Option.some.injEq] at last
    rw [last] at not
    exact Bool.eq_false_iff.2 not

end Because.Text
