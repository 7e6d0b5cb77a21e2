import Because.Proofs.Text.Words
import Because.Prompt

/-!
# Questions at the prompt

A line asks for a reason if its first word says so, its second word is the number of a reason, and
its third word, if there is one, is a depth. Blanks serve to tell words apart, and for nothing else.
A line that begins like a question and is none means nothing.
-/

namespace Because

namespace Command

/-- A word with which questions begin. -/
def IsWhy (word : String) : Prop := word = "why" ∨ word = "y"

/-- The word is the number of a reason, with any number of `#` before it. -/
def Numbers (word : String) (id : ReasonId) : Prop :=
  ∃ marks numeral, word.toList = marks ++ numeral ∧ (∀ c ∈ marks, c = '#') ∧
    Text.Unsigned numeral id ∧ id < 2 ^ 32

/-- What the words after `why` ask for: a reason and its causes, or as deep as they say. -/
inductive Asks : List String → ReasonId → Nat → Prop where
  | shallow {word id} : Numbers word id → Asks [word] id 1
  | deep {word id number depth later} : Numbers word id →
    Text.Unsigned number.toList depth → depth < 2 ^ 64 → Asks (word :: number :: later) id depth

variable {word : String} {id : ReasonId} {depth : Nat} {line : String} {words rest : List String}

/-! ## Words -/

/-- A numeral begins with no `#`. -/
lemma dropWhile_numeral {numeral : List Char} {n : Nat} (h : Text.Unsigned numeral n) :
    numeral.dropWhile (· == '#') = numeral := by
  cases h with
  | @bare digits any =>
    obtain ⟨c, rest, rfl⟩ := List.exists_cons_of_ne_nil any.any
    have digit := any.all c List.mem_cons_self
    refine List.dropWhile_cons_of_neg fun mark => ?_
    rw [eq_of_beq mark] at digit
    cases digit
  | plus => rfl

/-- A word is read as a number exactly if it writes this number. -/
lemma readId?_eq_some : readId? word = some id ↔ Numbers word id := by
  rw [readId?, Text.readNat?_eq_some, String.toList_ofList]
  constructor
  · rintro ⟨numeral, fits⟩
    refine ⟨word.toList.takeWhile (· == '#'), _, List.takeWhile_append_dropWhile.symm, ?_, numeral,
      fits⟩
    intro c mem
    have mark := List.mem_takeWhile_imp mem
    exact eq_of_beq mark
  · rintro ⟨marks, numeral, whole, all, value, fits⟩
    have marked : ∀ c ∈ marks, (c == '#') = true := fun c mem => beq_iff_eq.2 (all c mem)
    rw [whole, List.dropWhile_append_of_pos marked, dropWhile_numeral value]
    exact ⟨value, fits⟩

/-- Words are read as the question that they ask. -/
lemma ofWhyWords?_eq_some : ofWhyWords? rest = some (.why id depth) ↔ Asks rest id depth := by
  constructor
  · intro asks
    match rest with
    | [] => cases asks
    | [word] =>
      obtain ⟨_, found, same⟩ := Option.map_eq_some_iff.1 asks
      cases same
      exact .shallow (readId?_eq_some.1 found)
    | word :: number :: later =>
      obtain ⟨_, found, asks⟩ := Option.bind_eq_some_iff.1 asks
      obtain ⟨_, deep, same⟩ := Option.bind_eq_some_iff.1 asks
      cases same
      obtain ⟨numeral, fits⟩ := Text.readNat?_eq_some.1 deep
      exact .deep (readId?_eq_some.1 found) numeral fits
  · intro asks
    cases asks with
    | shallow numbers => exact Option.map_eq_some_iff.2 ⟨id, readId?_eq_some.2 numbers, rfl⟩
    | deep numbers numeral fits =>
      refine Option.bind_eq_some_iff.2 ⟨id, readId?_eq_some.2 numbers, ?_⟩
      exact Option.bind_eq_some_iff.2 ⟨depth, Text.readNat?_eq_some.2 ⟨numeral, fits⟩, rfl⟩

/-- Nothing else than a question is read from the words after `why`. -/
lemma ofWhyWords?_why {command : Command} (read : ofWhyWords? rest = some command) :
    ∃ id depth, command = .why id depth := by
  match rest with
  | [] => cases read
  | [word] =>
    obtain ⟨id, -, same⟩ := Option.map_eq_some_iff.1 read
    exact ⟨id, _, same.symm⟩
  | word :: number :: later =>
    obtain ⟨id, -, read⟩ := Option.bind_eq_some_iff.1 read
    obtain ⟨depth, -, same⟩ := Option.bind_eq_some_iff.1 read
    exact ⟨id, depth, (Option.some.inj same).symm⟩

/-- How a number of a reason is shown is a number of it. -/
lemma numbers_toString (fits : id < 2 ^ 32) : Numbers s!"#{id}" id := by
  refine ⟨['#'], (toString id).toList, ?_, List.forall_mem_singleton.2 rfl,
    Text.unsigned_toString id, fits⟩
  exact String.toList_append

/-! ## Lines -/

/-- A line that begins as questions do is a question or means nothing. -/
lemma parse_keyword {keyword : String} (read : Text.words line = keyword :: rest)
    (why : IsWhy keyword) :
    parse line = (ofWhyWords? rest).getD (.invalid (Text.trim line)) := by
  rw [parse, read]
  obtain rfl | rfl := why <;> rfl

/-- A line that does not begin as questions do is none. -/
lemma parse_other (other : ∀ keyword rest, Text.words line = keyword :: rest → ¬ IsWhy keyword)
    (id : ReasonId) (depth : Nat) : parse line ≠ .why id depth := by
  rw [parse]
  split
  · exact nofun
  · rename_i read
    exact absurd (.inl rfl) (other _ _ read)
  · rename_i read
    exact absurd (.inr rfl) (other _ _ read)
  all_goals exact nofun

/-- A line asks for a reason exactly if its words do. -/
lemma parse_eq_why : parse line = .why id depth ↔
    ∃ keyword rest, Text.words line = keyword :: rest ∧ IsWhy keyword ∧ Asks rest id depth := by
  constructor
  · intro asks
    -- If its words did not ask for the reason, the line would be another command or invalid.
    by_contra none
    refine parse_other (fun keyword rest read why => none ⟨keyword, rest, read, why, ?_⟩) id depth
      asks
    rw [parse_keyword read why] at asks
    cases question : ofWhyWords? rest with
    | none =>
      rw [question] at asks
      cases asks
    | some command =>
      rw [question] at asks
      obtain rfl : command = .why id depth := asks
      exact ofWhyWords?_eq_some.1 question
  · rintro ⟨keyword, rest, read, why, asks⟩
    rw [parse_keyword read why, ofWhyWords?_eq_some.2 asks]
    rfl

/-- A question that asks for nothing is invalid. -/
lemma parse_invalid {keyword : String} (read : Text.words line = keyword :: rest)
    (why : IsWhy keyword) (none : ∀ id depth, ¬ Asks rest id depth) :
    parse line = .invalid (Text.trim line) := by
  rw [parse_keyword read why]
  cases question : ofWhyWords? rest with
  | none => rfl
  | some command =>
    obtain ⟨id, depth, rfl⟩ := ofWhyWords?_why question
    exact absurd (ofWhyWords?_eq_some.1 question) (none id depth)

/-- Two lines of the same words are the same command, or both of them mean nothing. -/
lemma parse_blind {other : String} (same : Text.words other = Text.words line) :
    parse other = parse line ∨
      parse other = .invalid (Text.trim other) ∧ parse line = .invalid (Text.trim line) := by
  rw [parse, parse, same]
  split
  case h_2 | h_3 =>
    rename_i rest _
    cases ofWhyWords? rest with
    | none => exact .inr ⟨rfl, rfl⟩
    | some => exact .inl rfl
  case h_8 => exact .inr ⟨rfl, rfl⟩
  all_goals exact .inl rfl

/-- How a line with these words is understood. -/
structure Grammar (line : String) (words : List String) : Prop where
  asks : ∀ id depth, parse line = .why id depth ↔
    ∃ keyword rest, words = keyword :: rest ∧ IsWhy keyword ∧ Asks rest id depth
  refuses : ∀ keyword rest, words = keyword :: rest → IsWhy keyword →
    (∀ id depth, ¬ Asks rest id depth) → ∃ inner, Text.Trims line inner ∧ parse line = .invalid inner
  readsBack : ∀ id depth, id < 2 ^ 32 → depth < 2 ^ 64 →
    words = ["why", s!"#{id}", toString depth] → parse line = .why id depth
  blind : ∀ other : String, Text.Spaced other.toList words → parse other = parse line ∨
    ∃ inner inner', Text.Trims other inner ∧ Text.Trims line inner' ∧
      parse other = .invalid inner ∧ parse line = .invalid inner'

/-- Every line has words, in one way only, and they decide whether it is a question, and which. What
is printed of a question is read as that question again, whatever blanks stand around and between
its words. -/
theorem why_grammar (line : String) : ∃ words, Text.Spaced line.toList words ∧
    (∀ others, Text.Spaced line.toList others → others = words) ∧ Grammar line words := by
  refine ⟨Text.words line, Text.spaced_words line, fun _ spaced => spaced.words_eq.symm, ?_⟩
  constructor
  · exact fun _ _ => parse_eq_why
  · intro keyword rest read why none
    exact ⟨_, Text.trim_trims line, parse_invalid read why none⟩
  · intro id depth small fits read
    refine parse_eq_why.2 ⟨_, _, read, .inl rfl, ?_⟩
    exact .deep (numbers_toString small) (Text.unsigned_toString depth) fits
  · intro other spaced
    refine (parse_blind spaced.words_eq).imp_right fun invalid => ?_
    exact ⟨_, _, Text.trim_trims other, Text.trim_trims line, invalid⟩

example : parse " why\t##+007  2 more\n" = .why 7 2 ∧ parse "y # 2" = .invalid "y # 2" := by
  decide +kernel

end Command

end Because
