import Because.Proofs.Comparison.Track
import Because.Proofs.Reachable
import Because.Proofs.Watch

/-!
# Referential integrity

In every session that can come about, and at every moment of every run in it, all numbers that are
held anywhere have been given out: those in bindings, tags, handles, definitions and calls, and
those of the values in flight; every object is a scope that has a class. So the graph of reasons
never refuses anything, and no run fails because of it.
-/

namespace Because

/-- The numbers in flight at a moment lie in the census. -/
def Moment.In (c : Census) : Moment → Prop
  | .evaluating _ why | .executing _ why => c.reason why
  | .calling id args why => c.function id ∧ Justified.AllIn c args ∧ c.reason why
  | .evaluated result => result.In c
  | .executed flow => flow.In c
  | .failed failure => failure.In c

namespace Comparison

variable {g : Graph} {s : Session}

/-- What is kept track of passes the check for sound sessions. -/
lemma tracked_passes :
    (tracked g).Passes fun moment now => now.Sound ∧ moment.In now.census where
  evaluating expr pair hw := by
    obtain ⟨rfl, tracks⟩ := pair.holds
    exact ⟨pair.sound, tracks.known.reason hw⟩
  executing stmt pair hw := by
    obtain ⟨rfl, tracks⟩ := pair.holds
    exact ⟨pair.sound, tracks.known.reason hw⟩
  evaluated pair result := by
    obtain ⟨rfl, tracks⟩ := pair.holds
    obtain ⟨rfl, known⟩ := result
    exact ⟨pair.sound, known.mono tracks.known⟩
  executed {c s t x y} pair result := by
    obtain ⟨rfl, tracks⟩ := pair.holds
    obtain ⟨rfl, known⟩ := result
    refine ⟨pair.sound, ?_⟩
    cases x with
    | normal => trivial
    | returned => exact known.mono tracks.known
  failed {c s t e f} pair failure := by
    obtain ⟨rfl, tracks⟩ := pair.holds
    obtain ⟨rfl, known, -⟩ := failure
    refine ⟨pair.sound, ?_⟩
    rw [show e.rename (tracked g).rename = e from e.rename_id]
    exact fun why mem => tracks.known.reason (known why mem)

/-- So a run that is kept track of may be watched for this. -/
lemma tracked_watched (alarm : Failure) (steps : Nat) :
    (tracked g).Insides (fun _ => True) (fun _ => True) (.within steps)
      (.watchedWithin (fun moment now => now.Sound ∧ moment.In now.census) alarm steps) := by
  refine Insides.watchedWithin tracked_admits tracked_room tracked_passes ?_ alarm steps
  intro c s t id args why pair hf ha hw
  -- The arguments of a call are in flight, and lie in the census with it.
  obtain ⟨rfl, tracks⟩ := pair.holds
  rw [show args.map (Justified.rename (tracked g).rename) = args from args.map_id]
  exact ⟨pair.sound, tracks.known.function hf, ha.mono tracks.known, tracks.known.reason hw⟩

/-- A run that is kept track of ends like itself. -/
lemma tracked_eq {α : Type} {Q : Census → α → α → Prop} {c : Census} {o o' : Outcome Failure α}
    {t : Session} (h : (tracked g).Ends (tracked g).failures c s t Q o o')
    (results : ∀ {d x y}, Q d x y → y = x) : o' = o := by
  cases h with
  | done _ pair _ _ same =>
    obtain ⟨rfl, -⟩ := pair.holds
    rw [results same]
  | @failed d s' t' e f _ pair _ _ same =>
    obtain ⟨rfl, -⟩ := pair.holds
    obtain ⟨rfl, -, -⟩ := same
    rw [show e.rename (tracked g).rename = e from e.rename_id]
  | exhausted _ => rfl
  | escaped _ never => exact never.elim

end Comparison

open Comparison

namespace Session

/-- A blank session is sound. -/
lemma blank_sound (config : Config) (console : Console) : (blank config console).Sound := by
  have scopes : (blank config console).scopes.In (blank config console).census := by
    intro i
    simp only [blank, Scopes.scopeAt]
    cases i with
    | zero => exact .bare _
    | succ i => exact .bare _
  have entered : ∀ scope ∈ [globalScope], (blank config console).census.scope scope := by
    intro scope mem
    rw [List.mem_singleton.1 mem]
    exact Nat.zero_lt_one
  refine ⟨⟨Nat.zero_lt_one, scopes, ?_, ?_, entered, ?_⟩, .empty⟩
  · exact Array.forall_mem_empty _
  · exact Array.forall_mem_empty _
  · exact List.forall_mem_nil _

/-- A new session is sound. -/
lemma start_sound (config : Config) (console : Console) : (start config console).Sound := by
  have blank := blank_sound config console
  have ends := start_sim (C := tracked Graph.empty) (fun _ _ => trivial) blank.known.global _ _
    (tracked_pair blank)
  rw [start_eq]
  -- However the declarations end, the session they leave is sound.
  generalize Builtin.all.forM declareBuiltin (Session.blank config console) = o at ends
  cases left : o.session? with
  | none => exact blank
  | some s =>
    obtain ⟨d, s1, pair⟩ := ends.leaves (fun _ => id) left
    exact pair.sound

namespace Sound

variable {s : Session}

/-- A run from a sound session can be kept track of. -/
lemma runs (h : s.Sound) (steps : Nat) (program : Program) :
    (tracked s.graph).Ends (tracked s.graph).failures s.census s s Same
      (Because.runProgram (.within steps) program s)
      (Because.runProgram (.within steps) program s) :=
  runProgram_sim (tracked_insides steps) program (fun _ _ => trivial) _ _ (tracked_pair h)

/-- What a program leaves behind in a sound session is sound. -/
lemma leads {s' : Session} (h : s.Sound) (leads : s.LeadsTo s') : s'.Sound := by
  obtain ⟨steps, program, left⟩ := leads
  obtain ⟨d, s1, pair⟩ := (h.runs steps program).leaves (fun _ => id) left
  exact pair.sound

/-- What has been kept track of leaves a sound session behind, and its result lies in this. -/
lemma gives {α : Type} {a : Eval α} {Q : Census → α → α → Prop} {x : α} {s' : Session}
    (h : s.Sound) (sims : (tracked s.graph).Sim (tracked s.graph).failures s.census Q a a)
    (done : a s = .done x s') :
    s'.Sound ∧ s.SameStacks s' ∧ ∃ d, s.census.Le d ∧ d.Le s'.census ∧ Q d x x := by
  have ends := sims s s (tracked_pair h)
  rw [done] at ends
  cases ends with
  | done le pair balanced _ result =>
    exact ⟨pair.sound, balanced, _, le, pair.holds.2.known, result⟩

/-- What has been kept track of leaves the reasons as they are that were there before. -/
lemma gives_grows {α : Type} {a : Eval α} {Q : Census → α → α → Prop} {x : α} {s' : Session}
    (h : s.Sound) (sims : (tracked s.graph).Sim (tracked s.graph).failures s.census Q a a)
    (done : a s = .done x s') : s.graph.Grows s'.graph := by
  have ends := sims s s (tracked_pair h)
  rw [done] at ends
  cases ends with
  | done _ pair => exact ⟨pair.holds.2.size, pair.holds.2.same⟩

/-- A scope that has been made may be entered. -/
lemma enterScope (h : s.Sound) {i : ScopeId} (made : Nat.lt i s.scopes.size) :
    Session.Sound { s with entered := i :: s.entered } :=
  ((tracked_pair h).enterScope made).sound

/-- A scope may be left. -/
lemma leaveScope (h : s.Sound) : Session.Sound { s with entered := s.entered.tail } :=
  (tracked_pair h).leaveScope.sound

/-- No run in a sound session fails because of the graph of reasons. -/
lemma fault_ne_graph (h : s.Sound) {steps : Nat} {program : Program} {failure : Failure}
    {s' : Session} (fails : Because.runProgram (.within steps) program s = .failed failure s')
    (cause : GraphError) : failure.fault ≠ .graph cause := by
  have ends := h.runs steps program
  rw [fails] at ends
  cases ends with
  | failed _ _ _ _ related => exact related.2.2 cause
  | escaped _ never => exact never.elim

/-- A run in a sound session is sound at every moment. -/
lemma throughout (h : s.Sound) (steps : Nat) (program : Program) :
    s.Throughout steps program fun moment now => now.Sound ∧ moment.In now.census := by
  intro alarm
  have runs := runProgram_sim (tracked_watched alarm steps) program (fun _ _ => trivial) _ _
    (tracked_pair h)
  exact tracked_eq runs id

end Sound

/-- Sessions that can come about are sound. -/
lemma Reachable.sound {s : Session} (h : s.Reachable) : s.Sound := by
  induction h with
  | start config console => exact start_sound config console
  | run _ leads ih => exact ih.leads leads

/-- In every session that can come about, a run holds only numbers that have been given out, at
every one of its moments and whether or not it ends; what it fails with does so as well, and it
never fails because the graph of reasons refuses. -/
theorem Reachable.integrity {s : Session} (h : s.Reachable) (steps : Nat) (program : Program) :
    s.Sound ∧
    (s.Throughout steps program fun moment now => now.Sound ∧ moment.In now.census) ∧
    ∀ failure s', Because.runProgram (.within steps) program s = .failed failure s' →
      s'.Sound ∧ failure.In s'.census ∧ ∀ cause, failure.fault ≠ .graph cause := by
  have sound := h.sound
  refine ⟨sound, sound.throughout steps program, ?_⟩
  intro failure s' fails
  have ends := sound.runs steps program
  rw [fails] at ends
  cases ends with
  | failed _ pair _ _ related =>
    obtain ⟨-, tracks⟩ := pair.holds
    obtain ⟨-, known, allowed⟩ := related
    exact ⟨pair.sound, fun why mem => tracks.known.reason (known why mem), allowed⟩
  | escaped _ never => exact never.elim

/-- A program that reads a variable which no scope binds, in a new session. -/
theorem Reachable.integrity_of_start :
    (Session.start {} {}).Reachable ∧
    (Session.start {} {}).Throughout 2 [.effect .builtin (.get .builtin "absent")]
      fun moment now => now.Sound ∧ moment.In now.census :=
  have reachable := Reachable.start {} {}
  ⟨reachable, (reachable.integrity 2 [.effect .builtin (.get .builtin "absent")]).2.1⟩

end Session

end Because
