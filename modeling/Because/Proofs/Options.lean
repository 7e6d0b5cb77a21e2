import Because.Options
import Because.Proofs.Text.Numerals

/-!
# What arguments ask for

Options may be given more than once, and the last one counts. A limit on the number of calls that is
given as an argument takes the place of that of the environment, whatever the latter is; but the
environment is read all the same, and what is no limit is refused there.
-/

namespace Because

namespace RunOptions

/-! ## Arguments -/

/-- The text is this limit on the number of calls: none, in capitals or not, or a positive number of
64 bits. -/
inductive Limits : String → Option Nat → Prop where
  | none {value} : value.map Char.toLower = "none" → Limits value none
  | calls {value depth} : Text.Unsigned value.toList depth → 0 < depth → depth < 2 ^ 64 →
    Limits value (some depth)

/-- The text is this depth of explanations. -/
def Deepens (value : String) (depth : Nat) : Prop :=
  Text.Unsigned value.toList depth ∧ depth < 2 ^ 64

/-- Options with a value that they take, and arguments that are no options. -/
inductive Acceptable : String → Prop where
  | maxDepth {value limit} : Limits value limit → Acceptable ("--max-depth=" ++ value)
  | explainDepth {value depth} : Deepens value depth → Acceptable ("--explain-depth=" ++ value)
  | noPrompt : Acceptable "--no-post-mortem"
  | positional {argument} : argument.toList.head? ≠ some '-' → Acceptable argument

/-- The last of the arguments that start so ends with this value. -/
def LastValue (start : String) (arguments : List String) (value : String) : Prop :=
  ∃ before after, arguments = before ++ (start ++ value) :: after ∧
    ∀ other ∈ after, ¬ start.toList <+: other.toList

/-- What the last of the arguments that start so stands for, and a default if none of them does. -/
inductive Picks {α : Type} (start : String) (Means : String → α → Prop) (default : α)
    (arguments : List String) : α → Prop where
  | last {value x} : LastValue start arguments value → Means value x →
    Picks start Means default arguments x
  | default : (∀ argument ∈ arguments, ¬ start.toList <+: argument.toList) →
    Picks start Means default arguments default

/-- The options after the arguments have been followed from left to right. -/
structure Follows (options : RunOptions) (arguments : List String) (result : RunOptions) :
    Prop where
  maxDepth :
    Picks "--max-depth=" Limits options.config.maxDepth arguments result.config.maxDepth
  explainDepth :
    Picks "--explain-depth=" Deepens options.config.explainDepth arguments result.config.explainDepth
  prompt : result.prompt = true ↔ options.prompt = true ∧ "--no-post-mortem" ∉ arguments

/-- The arguments that are no options, in their order. -/
def positionals (arguments : List String) : List String :=
  arguments.filter fun argument => argument.toList.head? ≠ some '-'

variable {start value argument flag : String} {limit : Option Nat} {depth : Nat}
  {options result : RunOptions} {arguments rest : List String}

section

variable {α : Type} {Means : String → α → Prop} {x y : α}

/-- An argument that starts otherwise picks nothing. -/
lemma Picks.cons_other (other : ¬ start.toList <+: argument.toList)
    (picks : Picks start Means y rest x) : Picks start Means y (argument :: rest) x := by
  cases picks with
  | last last means =>
    obtain ⟨before, after, rfl, none⟩ := last
    exact .last ⟨argument :: before, after, rfl, none⟩ means
  | default none => exact .default (List.forall_mem_cons.2 ⟨other, none⟩)

/-- An argument that starts so picks its value, unless a later one does. -/
lemma Picks.cons_own {default : α} (means : Means value y) (picks : Picks start Means y rest x) :
    Picks start Means default ((start ++ value) :: rest) x := by
  cases picks with
  | last last means =>
    obtain ⟨before, after, rfl, none⟩ := last
    exact .last ⟨(start ++ value) :: before, after, rfl, none⟩ means
  | default none => exact .last ⟨[], rest, rfl, none⟩ means

end

/-! ## Values -/

/-- What is written as a number is not `none`. -/
lemma not_none_of_unsigned (numeral : Text.Unsigned value.toList depth) :
    value.map Char.toLower ≠ "none" := by
  intro same
  have letters : value.toList.map Char.toLower = ['n', 'o', 'n', 'e'] := by
    rw [← String.toList_map, same]
    rfl
  cases digits : value.toList with
  | nil =>
    rw [digits] at letters
    cases letters
  | cons c rest =>
    rw [digits] at letters numeral
    have first : c.toLower = 'n' := (List.cons.inj letters).1
    cases numeral with
    | bare all =>
      have digit := all.all c List.mem_cons_self
      rw [Char.isDigit, Bool.and_eq_true, decide_eq_true_eq, decide_eq_true_eq] at digit
      have small : ¬ (c.val ≥ 'A'.val ∧ c.val ≤ 'Z'.val) := fun capital =>
        absurd (UInt32.le_trans capital.1 digit.2) (by decide)
      have stays : c.toLower = c := dif_neg small
      rw [stays] at first
      subst first
      exact absurd digit.2 (by decide)
    | plus => exact absurd first (by decide)

/-- A text is one limit at most. -/
lemma Limits.unique {other : Option Nat} (h : Limits value limit) (h' : Limits value other) :
    limit = other := by
  cases h with
  | none none =>
    cases h' with
    | none => rfl
    | calls numeral => exact absurd none (not_none_of_unsigned numeral)
  | calls numeral _ fits =>
    cases h' with
    | none none => exact absurd none (not_none_of_unsigned numeral)
    | calls numeral' _ fits' =>
      have read := Text.readNat?_eq_some.2 ⟨numeral, fits⟩
      rw [Text.readNat?_eq_some.2 ⟨numeral', fits'⟩] at read
      exact read.symm

/-- A text that is a limit is read as this limit. -/
lemma readMaxDepth_of_limits (limits : Limits value limit) (flag : String) :
    readMaxDepth flag value = .ok limit := by
  cases limits with
  | none none => rw [readMaxDepth, if_pos none]
  | calls numeral positive fits =>
    obtain ⟨depth, rfl⟩ := Nat.exists_eq_succ_of_ne_zero (Nat.ne_of_gt positive)
    rw [readMaxDepth, if_neg (not_none_of_unsigned numeral),
      show Text.readNat? Text.depthBound value = some (depth + 1) from
        Text.readNat?_eq_some.2 ⟨numeral, fits⟩]

/-- A limit is read, and all else is refused. -/
lemma readMaxDepth_cases (flag value : String) :
    (∃ limit, Limits value limit ∧ readMaxDepth flag value = .ok limit) ∨
      (∀ limit, ¬ Limits value limit) ∧
        readMaxDepth flag value = .error (.invalidValue flag value) := by
  by_cases limits : ∃ limit, Limits value limit
  · obtain ⟨limit, limits⟩ := limits
    exact .inl ⟨limit, limits, readMaxDepth_of_limits limits flag⟩
  · rw [not_exists] at limits
    refine .inr ⟨limits, ?_⟩
    rw [readMaxDepth]
    split
    · rename_i none
      exact absurd (.none none) (limits Option.none)
    split
    · rename_i depth read
      obtain ⟨numeral, fits⟩ := Text.readNat?_eq_some.1 read
      exact absurd (.calls numeral (Nat.succ_pos _) fits) (limits _)
    · rfl

/-- A text that is a depth is read as this depth. -/
lemma readExplainDepth_of_deepens (deepens : Deepens value depth) :
    readExplainDepth value = .ok depth := by
  rw [readExplainDepth, show Text.readNat? Text.depthBound value = some depth from
    Text.readNat?_eq_some.2 deepens]

/-! ## Reading arguments -/

/-- What starts with `--max-depth=` is the option of this name. -/
lemma classify_maxDepth (value : String) :
    classify ("--max-depth=" ++ value) = .maxDepth value := by
  rw [classify, Text.dropStart?_append]

/-- Unless one of two starts continues the other, no argument has both. -/
lemma not_starts {other : String} (differ : ¬ start.toList <+: other.toList)
    (differ' : ¬ other.toList <+: start.toList) (value : String) :
    ¬ start.toList <+: (other ++ value).toList := by
  rw [String.toList_append]
  intro begins
  obtain shorter | longer := List.prefix_or_prefix_of_prefix begins (List.prefix_append _ _)
  · exact differ shorter
  · exact differ' longer

/-- Unless one of two starts continues the other, no argument with the one is the other. -/
lemma ne_append {other : String} (differ : ¬ start.toList <+: other.toList)
    (differ' : ¬ other.toList <+: start.toList) (value : String) : start ≠ other ++ value := by
  intro same
  have starts := not_starts differ differ' value
  rw [← same] at starts
  exact starts List.prefix_rfl

/-- What starts with `--explain-depth=` is the option of this name. -/
lemma classify_explainDepth (value : String) :
    classify ("--explain-depth=" ++ value) = .explainDepth value := by
  have other : Text.dropStart? "--max-depth=" ("--explain-depth=" ++ value) = none :=
    Text.dropStart?_eq_none.2 (not_starts (by decide) (by decide) value)
  rw [classify, other, Text.dropStart?_append]

/-- No option begins as an argument that is none. -/
lemma not_starts_of_head (head : argument.toList.head? ≠ some '-')
    (option : start.toList.head? = some '-') : ¬ start.toList <+: argument.toList := by
  rintro ⟨rest, whole⟩
  obtain ⟨tail, same⟩ := List.head?_eq_some_iff.1 option
  rw [same] at whole
  exact head (List.head?_eq_some_iff.2 ⟨tail ++ rest, whole.symm⟩)

/-- What does not start with a dash is no option. -/
lemma classify_positional (head : argument.toList.head? ≠ some '-') :
    classify argument = .positional argument := by
  have notMax : Text.dropStart? "--max-depth=" argument = none :=
    Text.dropStart?_eq_none.2 (not_starts_of_head head rfl)
  have notExplain : Text.dropStart? "--explain-depth=" argument = none :=
    Text.dropStart?_eq_none.2 (not_starts_of_head head rfl)
  have notPrompt : argument ≠ "--no-post-mortem" := by
    rintro rfl
    exact head rfl
  rw [classify, notMax, notExplain]
  dsimp only
  rw [if_neg notPrompt, if_neg head]

namespace Follows

/-- Without arguments the options stay as they are. -/
lemma nil (options : RunOptions) : options.Follows [] options where
  maxDepth := .default (List.forall_mem_nil _)
  explainDepth := .default (List.forall_mem_nil _)
  prompt := by simp

/-- After an option for the limit, the others are followed with this limit. -/
lemma maxDepth_cons (limits : Limits value limit)
    (h : { options with config := { options.config with maxDepth := limit } }.Follows rest result) :
    options.Follows (("--max-depth=" ++ value) :: rest) result where
  maxDepth := h.maxDepth.cons_own limits
  explainDepth := h.explainDepth.cons_other (not_starts (by decide) (by decide) value)
  prompt := by
    have other : "--no-post-mortem" ≠ "--max-depth=" ++ value :=
      ne_append (by decide) (by decide) value
    rw [h.prompt, List.mem_cons, or_iff_right other]

/-- After an option for the depth, the others are followed with this depth. -/
lemma explainDepth_cons (deepens : Deepens value depth)
    (h : { options with config := { options.config with explainDepth := depth } }.Follows rest
      result) :
    options.Follows (("--explain-depth=" ++ value) :: rest) result where
  maxDepth := h.maxDepth.cons_other (not_starts (by decide) (by decide) value)
  explainDepth := h.explainDepth.cons_own deepens
  prompt := by
    have other : "--no-post-mortem" ≠ "--explain-depth=" ++ value :=
      ne_append (by decide) (by decide) value
    rw [h.prompt, List.mem_cons, or_iff_right other]

/-- After an option against the prompt, the others are followed without a prompt. -/
lemma noPrompt_cons (h : { options with prompt := false }.Follows rest result) :
    options.Follows ("--no-post-mortem" :: rest) result where
  maxDepth := h.maxDepth.cons_other (by decide)
  explainDepth := h.explainDepth.cons_other (by decide)
  prompt := by simp [h.prompt]

/-- An argument that is no option changes no options. -/
lemma positional_cons (head : argument.toList.head? ≠ some '-') (h : options.Follows rest result) :
    options.Follows (argument :: rest) result where
  maxDepth := h.maxDepth.cons_other (not_starts_of_head head rfl)
  explainDepth := h.explainDepth.cons_other (not_starts_of_head head rfl)
  prompt := by
    have other : "--no-post-mortem" ≠ argument := by
      rintro rfl
      exact head rfl
    rw [h.prompt, List.mem_cons, or_iff_right other]

end Follows

/-- An option is no positional argument. -/
lemma positionals_option (option : argument.toList.head? = some '-') :
    positionals (argument :: rest) = positionals rest :=
  List.filter_cons_of_neg (by simp [option])

/-- Acceptable arguments are followed. -/
lemma readArguments_follows (acceptable : ∀ argument ∈ arguments, Acceptable argument)
    (options : RunOptions) : ∃ result,
      options.readArguments arguments = .ok (result, positionals arguments) ∧
        options.Follows arguments result := by
  induction arguments generalizing options with
  | nil => exact ⟨options, rfl, .nil options⟩
  | cons argument rest ih =>
    obtain ⟨first, others⟩ := List.forall_mem_cons.1 acceptable
    -- What comes later is read with the options that the first argument has set.
    cases first with
    | @maxDepth value limit limits =>
      obtain ⟨result, reads, follows⟩ :=
        ih others { options with config := { options.config with maxDepth := limit } }
      refine ⟨result, ?_, follows.maxDepth_cons limits⟩
      rw [readArguments, classify_maxDepth]
      dsimp only [setMaxDepth]
      rw [readMaxDepth_of_limits limits, positionals_option (by simp)]
      exact reads
    | @explainDepth value depth deepens =>
      obtain ⟨result, reads, follows⟩ :=
        ih others { options with config := { options.config with explainDepth := depth } }
      refine ⟨result, ?_, follows.explainDepth_cons deepens⟩
      rw [readArguments, classify_explainDepth]
      dsimp only [setExplainDepth]
      rw [readExplainDepth_of_deepens deepens, positionals_option (by simp)]
      exact reads
    | noPrompt =>
      obtain ⟨result, reads, follows⟩ := ih others { options with prompt := false }
      refine ⟨result, ?_, follows.noPrompt_cons⟩
      rw [readArguments, show classify "--no-post-mortem" = .noPrompt by decide +kernel,
        positionals_option rfl]
      exact reads
    | positional head =>
      obtain ⟨result, reads, follows⟩ := ih others options
      refine ⟨result, ?_, follows.positional_cons head⟩
      rw [readArguments, classify_positional head, positionals,
        List.filter_cons_of_pos (by simp [head])]
      dsimp only
      rw [reads]
      rfl

/-- Where an argument limits the number of calls, it does not matter which limit there was. -/
lemma readArguments_explicit (explicit : "--max-depth=" ++ value ∈ arguments) (options : RunOptions)
    (limit : Option Nat) :
    { options with config := { options.config with maxDepth := limit } }.readArguments arguments =
      options.readArguments arguments := by
  induction arguments generalizing options with
  | nil => cases explicit
  | cons argument rest ih =>
    have later (other : ∀ value, classify argument ≠ .maxDepth value) :
        "--max-depth=" ++ value ∈ rest := by
      refine (List.mem_cons.1 explicit).resolve_left fun same => other value ?_
      rw [← same, classify_maxDepth]
    rw [readArguments, readArguments]
    cases kind : classify argument with
    | maxDepth | unknown => rfl
    | explainDepth given =>
      dsimp only [setExplainDepth]
      cases readExplainDepth given with
      | error => rfl
      | ok depth =>
        exact ih (later fun _ => kind ▸ nofun)
          { options with config := { options.config with explainDepth := depth } }
    | noPrompt => exact ih (later fun _ => kind ▸ nofun) { options with prompt := false }
    | positional =>
      dsimp only
      rw [ih (later fun _ => kind ▸ nofun) options]

/-! ## Arguments and environment -/

/-- What acceptable arguments come to of which at least one limits the number of calls. -/
structure Decides (arguments : List String) (options : RunOptions) (positional : List String) :
    Prop where
  maxDepth : ∃ value, LastValue "--max-depth=" arguments value ∧
    Limits value options.config.maxDepth
  explainDepth : Picks "--explain-depth=" Deepens 2 arguments options.config.explainDepth
  prompt : options.prompt = true ↔ "--no-post-mortem" ∉ arguments
  positional : positional = positionals arguments

/-- An argument that limits the number of calls, and has the last word on it, takes the place of all
limits that the environment can give; but an environment that gives something else than a limit is
refused before the arguments are looked at. -/
theorem explicit_limit_decides (acceptable : ∀ argument ∈ arguments, Acceptable argument)
    (explicit : ∃ value, "--max-depth=" ++ value ∈ arguments) :
    ∃ options positional, Decides arguments options positional ∧
      parse arguments none = .ok (options, positional) ∧ ∀ value,
        ((∃ limit, Limits value limit) →
          parse arguments (some value) = .ok (options, positional)) ∧
        ((∀ limit, ¬ Limits value limit) →
          parse arguments (some value) = .error (.invalidValue "RAVEL_MAX_DEPTH" value)) := by
  obtain ⟨_, explicit⟩ := explicit
  obtain ⟨result, reads, follows⟩ := readArguments_follows acceptable {}
  have decides : Decides arguments result (positionals arguments) := by
    refine ⟨?_, follows.explainDepth, by simpa using follows.prompt, rfl⟩
    have picks := follows.maxDepth
    generalize result.config.maxDepth = limit at picks
    cases picks with
    | last last limits => exact ⟨_, last, limits⟩
    | default none =>
      refine absurd ?_ (none _ explicit)
      rw [String.toList_append]
      exact List.prefix_append _ _
  refine ⟨result, _, decides, reads, fun value => ⟨?_, ?_⟩⟩
  · rintro ⟨limit, limits⟩
    have environment : ({} : RunOptions).setMaxDepth maxDepthVariable value =
        .ok { config := { maxDepth := limit } } := by
      rw [setMaxDepth, readMaxDepth_of_limits limits]
      rfl
    rw [← readArguments_explicit explicit {} limit] at reads
    rw [parse]
    dsimp only
    rw [environment]
    exact reads
  · intro none
    obtain ⟨limit, limits, -⟩ | ⟨-, refused⟩ := readMaxDepth_cases maxDepthVariable value
    · exact absurd limits (none limit)
    · rw [parse]
      dsimp only [setMaxDepth]
      rw [refused]
      rfl

/-- Two limits with a depth and a name between them. -/
def corrected : List String :=
  ["--max-depth=10", "lists", "--explain-depth=4", "--max-depth=None"]

/-- The text `10` is a limit. -/
lemma limits_ten : Limits "10" (some 10) :=
  .calls (Text.readNat?_eq_some.1 (show Text.readNat? (2 ^ 64) "10" = some 10 by decide +kernel)).1
    (by decide) (by decide)

/-- All of the corrected arguments are acceptable. -/
lemma acceptable_corrected : ∀ argument ∈ corrected, Acceptable argument := by
  have deepens : Deepens "4" 4 :=
    Text.readNat?_eq_some.1 (show Text.readNat? (2 ^ 64) "4" = some 4 by decide +kernel)
  refine List.forall_mem_cons.2 ⟨.maxDepth limits_ten, List.forall_mem_cons.2
    ⟨.positional (by decide), List.forall_mem_cons.2 ⟨.explainDepth deepens,
      List.forall_mem_singleton.2 (@Acceptable.maxDepth "None" none (.none ?_))⟩⟩⟩
  decide +kernel

/-- The second limit counts, and with it there is none, whatever limit the environment gives. -/
theorem explicit_limit_decides_of_corrected :
    (∀ argument ∈ corrected, Acceptable argument) ∧
    (∃ value, "--max-depth=" ++ value ∈ corrected) ∧ ∃ options positional,
      Decides corrected options positional ∧ options.config = ⟨none, 4⟩ ∧ positional = ["lists"] ∧
        parse corrected (some "10") = .ok (options, positional) := by
  have explicit : ∃ value, "--max-depth=" ++ value ∈ corrected := ⟨"10", List.mem_cons_self⟩
  obtain ⟨options, positional, decides, reads, environment⟩ :=
    explicit_limit_decides acceptable_corrected explicit
  have read : parse corrected none = .ok (⟨⟨none, 4⟩, true⟩, ["lists"]) := by decide +kernel
  have same := reads.symm.trans read
  simp only [Except.ok.injEq, Prod.mk.injEq] at same
  obtain ⟨rfl, rfl⟩ := same
  exact ⟨acceptable_corrected, explicit, _, _, decides, rfl, rfl, (environment "10").1
    ⟨_, limits_ten⟩⟩

/-- An environment that gives no limit is refused although an argument gives one. -/
theorem lots_refused : (∀ argument ∈ ["--max-depth=10"], Acceptable argument) ∧
    parse ["--max-depth=10"] none = .ok (⟨⟨some 10, 2⟩, true⟩, []) ∧
    parse ["--max-depth=10"] (some "lots") =
      .error (.invalidValue "RAVEL_MAX_DEPTH" "lots") := by
  refine ⟨List.forall_mem_singleton.2 (.maxDepth limits_ten), ?_, ?_⟩ <;> decide +kernel

end RunOptions

end Because
