import Because.Program.Build
import Because.Proofs.Comparison.Renumber
import Because.Proofs.Graph.History
import Because.Proofs.Integrity

/-!
# Provenance does not matter

Reasons are recorded wherever a program does something, but a program that does not look at them
does the same whatever they are. Run in two sessions that are the same but for the numbers of their
reasons, it prints the same texts, reads the same lines, ends in the same way and leaves sessions
that are again the same but for these numbers. Functions that the sessions already know have to be
as discreet as the program, which may call them.
-/

namespace Because

namespace Session

/-- The sessions are the same but for the numbers of their reasons, which `ρ` carries over in
ascending order. What the reasons say is left open, and the second session may have more of them. -/
structure SameUpTo (ρ : ReasonId → ReasonId) (s t : Session) : Prop where
  ascending : ∀ i j : Nat, i < j → j < s.graph.size → ρ i < ρ j
  registered : ∀ i : Nat, i < s.graph.size → ρ i < t.graph.size
  scopes : t.scopes = s.scopes.rename ρ
  classes : t.classes = s.classes
  functions : t.functions = s.functions
  entered : t.entered = s.entered
  calls : t.calls = s.calls
  console : t.console = s.console
  nextObject : t.nextObject = s.nextObject
  config : t.config = s.config

/-- No function of the session shows reasons. -/
def Discreet (s : Session) : Prop := ∀ function ∈ s.functions, ∀ stmt ∈ function.body, stmt.Discreet

end Session

/-- Two runs end alike, in sessions that are the same but for the numbers of their reasons. -/
inductive Outcome.SameUpTo {α : Type} (ρ : ReasonId → ReasonId) :
    Outcome Failure α → Outcome Failure α → Prop where
  | done {x s t} : s.SameUpTo ρ t → SameUpTo ρ (.done x s) (.done x t)
  | failed {failure s t} : s.SameUpTo ρ t →
    SameUpTo ρ (.failed failure s) (.failed (failure.rename ρ) t)
  | exhausted : SameUpTo ρ .exhausted .exhausted

/-- What a run has printed when it ends. -/
def Outcome.printed? {ε α : Type} (o : Outcome ε α) : Option String :=
  o.session?.map (·.console.printed)

/-- Runs that end alike up to the numbers of reasons have printed the same. -/
lemma Outcome.SameUpTo.printed {α : Type} {ρ : ReasonId → ReasonId} {o o' : Outcome Failure α}
    (h : o.SameUpTo ρ o') : o'.printed? = o.printed? := by
  cases h with
  | done same | failed same => exact congrArg (fun console => some console.printed) same.console
  | exhausted => rfl

open Comparison

namespace Session

variable {ρ : ReasonId → ReasonId} {s t : Session}

/-- What the host records in a session changes nothing but that there are more reasons. -/
lemma SameUpTo.after (s : Session) (operations : List Graph.Operation) :
    s.SameUpTo id { s with graph := s.graph.after operations } where
  ascending _ _ lt _ := lt
  registered _ lt := Nat.lt_of_lt_of_le lt (Graph.size_after _ _)
  scopes := (Scopes.rename_id _).symm
  classes := rfl
  functions := rfl
  entered := rfl
  calls := rfl
  console := rfl
  nextObject := rfl
  config := rfl

/-- The built-in classes look at no numbers of reasons. -/
lemma start_discreet (config : Config) (console : Console) : (start config console).Discreet :=
  start_bodies (fun _ _ => .intro not_false nofun nofun) config console

namespace SameUpTo

/-- Sessions that are the same up to the numbers of reasons correspond. -/
lemma pair (same : s.SameUpTo ρ t) (known : s.In s.census) (discreet : s.Discreet) :
    (renumbered ρ s.graph.size t.graph.size).Pair s.census s t where
  known := known
  bodies := discreet
  scopes := by
    have agree : ∀ i, s.census.reason i → ρ i = renumber ρ s.graph.size t.graph.size i :=
      fun _ lt => (renumber_old lt).symm
    rw [same.scopes, Scopes.rename_congr agree known.scopes]
    rfl
  classes := same.classes
  functions := same.functions
  entered := same.entered
  frames := congrArg CallStack.frames same.calls
  console := same.console
  nextObject := same.nextObject
  holds := by
    have tracks := (tracked_pair known.sound).holds.2
    rw [census_bare] at tracks
    refine ⟨tracks, ?_, same.config, congrArg CallStack.limit same.calls⟩
    rw [Nat.sub_self, Nat.add_zero]

end SameUpTo

end Session

namespace Comparison

variable {ρ : ReasonId → ReasonId} {old new : Nat} {c : Census} {s t : Session}

/-- Corresponding sessions are the same up to the numbers of reasons. -/
lemma Pair.sameUpTo (h : (renumbered ρ old new).Pair c s t) (below : ∀ i : Nat, i < old → ρ i < new)
    (ascending : ∀ i j : Nat, i < j → j < old → ρ i < ρ j) :
    s.SameUpTo (renumber ρ old new) t where
  ascending _ _ lt _ := renumber_ascending below ascending lt
  registered _ lt := Nat.lt_of_lt_of_eq (Because.renumber_lt below lt) h.holds.2.size.symm
  scopes := h.scopes
  classes := h.classes
  functions := h.functions
  entered := h.entered
  calls := by
    rw [show t.calls = ⟨t.calls.frames, t.calls.limit⟩ from rfl, h.frames, h.holds.2.limit]
  console := h.console
  nextObject := h.nextObject
  config := h.holds.2.config

/-- The first of two corresponding sessions holds what it has given out, and its functions are
discreet. -/
lemma Pair.settled (h : (renumbered ρ old new).Pair c s t) : s.In s.census ∧ s.Discreet := by
  have le := h.holds.1.known
  rw [Session.census_bare] at le
  exact ⟨h.known.mono le, h.bodies⟩

end Comparison

namespace Session

variable {ρ : ReasonId → ReasonId} {s t : Session}

/-- In two sessions that are the same but for the numbers of their reasons, and whose functions do
not show any reasons, a program that does not do so either ends alike, and leaves two such sessions:
old reasons are renamed as before, and new ones get the next free numbers in both. -/
theorem SameUpTo.discreet_run (same : s.SameUpTo ρ t) (known : s.In s.census)
    (discreet : s.Discreet) {program : Program} (quiet : program.Discreet) (steps : Nat) :
    (Because.runProgram (.within steps) program s).SameUpTo
        (renumber ρ s.graph.size t.graph.size) (Because.runProgram (.within steps) program t) ∧
      ∀ s', (Because.runProgram (.within steps) program s).session? = some s' →
        s'.In s'.census ∧ s'.Discreet := by
  have lawful := renumbered_lawful same.registered
  have ends := runProgram_sim (renumbered_insides same.registered steps) program quiet s t
    (same.pair known discreet)
  generalize Because.runProgram (.within steps) program s = o,
    Because.runProgram (.within steps) program t = o' at ends ⊢
  cases ends with
  | done _ pair _ _ _ =>
    refine ⟨.done (pair.sameUpTo same.registered same.ascending), ?_⟩
    rintro s' ⟨⟩
    exact pair.settled
  | failed _ pair _ _ related =>
    obtain ⟨rfl, -, -⟩ := related
    refine ⟨.failed (pair.sameUpTo same.registered same.ascending), ?_⟩
    rintro s' ⟨⟩
    exact pair.settled
  | exhausted _ => exact ⟨.exhausted, nofun⟩
  | escaped _ never => exact never.elim

/-- A greeting, in a new session and in one in which the host has recorded two reasons. -/
theorem SameUpTo.discreet_run_of_start :
    let s := start {} {}
    let t := { s with graph := s.graph.after [.text "host", .unknown] }
    let greeting : Program := [.print .builtin (.string .builtin "hello")]
    s.SameUpTo id t ∧ s.In s.census ∧ s.Discreet ∧ greeting.Discreet ∧
      (Because.runProgram (.within 8) greeting s).SameUpTo (renumber id s.graph.size t.graph.size)
        (Because.runProgram (.within 8) greeting t) := by
  intro s t greeting
  have literal : Expr.Everywhere (fun expr => ¬ expr.ShowsReason)
      (.const .builtin (.str "hello")) := .intro not_false nofun
  have value : Expr.Everywhere (fun expr => ¬ expr.ShowsReason) (.string .builtin "hello") := by
    refine .intro not_false fun inner mem => ?_
    rw [List.mem_singleton.1 mem]
    exact literal
  have quiet : greeting.Discreet := by
    intro stmt mem
    rw [List.mem_singleton.1 mem]
    refine .intro not_false (fun expr mem => ?_) nofun
    rw [List.mem_singleton.1 mem]
    exact value
  have same : s.SameUpTo id t := .after s _
  have known := (start_sound {} {}).known
  have discreet := start_discreet {} {}
  exact ⟨same, known, discreet, quiet, (same.discreet_run known discreet quiet 8).1⟩

/-! ## Functions that show reasons -/

/-- A program that declares a function which explains a value. -/
def explainer : Program :=
  [.declareFunction .builtin ⟨"show", [], [.fullExplain .builtin (.const .builtin .none)],
    .builtin⟩]

/-- A program that shows no reasons itself, but calls the function. -/
def asker : Program := [.call .builtin "show" []]

/-- A session that knows the function. -/
def knowing : Session :=
  (Because.runProgram (.within 8) explainer (start {} {})).session?.getD (start {} {})

/-- The session that knows the function can come about. -/
lemma knowing_reachable : knowing.Reachable := by
  have ran : (Because.runProgram (.within 8) explainer (start {} {})).session?.isSome := by
    decide +kernel
  obtain ⟨s, left⟩ := Option.isSome_iff_exists.1 ran
  have same : knowing = s := by
    unfold knowing
    rw [left]
    rfl
  exact same ▸ .run (.start {} {}) ⟨8, explainer, left⟩

/-- It is not enough that the program itself shows no reasons: through a function that an earlier
program has declared it prints the number of a reason, and this is another one if the host has
recorded something before. -/
theorem asker_differs :
    let s := knowing
    let t := { s with graph := s.graph.after [.text "x"] }
    s.Reachable ∧ s.SameUpTo id t ∧ asker.Discreet ∧
      ∀ σ, ¬ (Because.runProgram (.within 8) asker s).SameUpTo σ
        (Because.runProgram (.within 8) asker t) := by
  intro s t
  have quiet : asker.Discreet := by
    intro stmt mem
    rw [List.mem_singleton.1 mem]
    refine .intro not_false (fun expr mem => ?_) nofun
    rw [List.mem_singleton.1 mem]
    exact .intro not_false nofun
  refine ⟨knowing_reachable, .after s _, quiet, ?_⟩
  intro σ same
  have printed := same.printed
  revert printed
  decide +kernel

end Session

end Because
