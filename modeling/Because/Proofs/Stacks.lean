import Because.Proofs.Comparison.Limit
import Because.Proofs.Reachable

/-!
# Stack discipline

Whatever runs, and however it ends, the scopes that have been entered and the calls in progress
are in the end what they were in the beginning. So a failed program leaves no trace in them, and
between programs the innermost scope is the global one and no call is in progress.
-/

namespace Because

/-- However an action ends, it leaves the scopes that have been entered and the calls in progress
as it found them. -/
def Action.KeepsStacks {ε α : Type} (action : Action ε α) : Prop :=
  ∀ s s', (action s).session? = some s' → s'.entered = s.entered ∧ s'.calls = s.calls

namespace Comparison

/-- The comparison of a run with itself, of which nothing is asked. -/
def self : Comparison := relimited id (fun _ => True) (fun _ => True) (fun _ => False)

instance : self.Lawful := relimited_lawful fun _ _ => trivial

/-- A session corresponds to itself. -/
lemma self_pair (s : Session) : self.Pair .all s s := relimited_pair trivial _ s.in_all

/-- A call may begin in both runs or in neither. -/
lemma self_room {c : Census} {s t : Session} (frame : Frame) (pair : self.Pair c s t) :
    self.Room c frame s t :=
  relimited_id_room (fun _ _ _ => .inl trivial) (fun _ _ _ _ => trivial) frame pair

/-- Every number of steps compares with itself. -/
lemma self_insides (steps : Nat) :
    self.Insides (fun _ => True) (fun _ => True) (.within steps) (.within steps) :=
  .within (C := self) relimited_admits self_room steps

/-- An action that matches itself keeps the stacks. -/
lemma Sim.keepsStacks {ε α : Type} {E : ErrorRel ε} {Q : Census → α → α → Prop}
    {action : Action ε α} (h : self.Sim E .all Q action action) : action.KeepsStacks := by
  intro s s' left
  have ends := h s s (self_pair s)
  generalize action s = o at ends left
  cases ends with
  | done _ _ keeps _ _ | failed _ _ keeps _ _ | escaped keeps _ =>
    cases left
    exact ⟨keeps.entered, keeps.calls⟩
  | exhausted _ => cases left

/-- Values correspond to themselves. -/
lemma self_infos (infos : List Justified) : infos.map (Justified.rename self.rename) = infos :=
  infos.map_id

end Comparison

open Comparison

/-- A program leaves the stacks as it found them. -/
lemma runProgram_keepsStacks (steps : Nat) (program : Program) :
    (runProgram (.within steps) program).KeepsStacks :=
  (runProgram_sim (self_insides steps) program fun _ _ => trivial).keepsStacks

/-- A call leaves the stacks as it found them, also if there is no room for it. -/
lemma callFunction_keepsStacks (steps : Nat) (id : FunctionId) (args : List Justified)
    (why : ReasonId) : (callFunction (.within steps) id args why).KeepsStacks := by
  have known : Justified.AllIn .all args := fun info _ => ⟨Value.in_all _, trivial⟩
  have because : Census.all.reason why := trivial
  have calls := callFunction_sim (self_insides steps) (fun _ _ => trivial) self_room id known
    because
  rw [self_infos] at calls
  exact calls.keepsStacks

/-- At the start the global scope has been entered, and no call is in progress. -/
lemma start_stacks (config : Config) (console : Console) :
    (Session.start config console).entered = [Session.globalScope] ∧
      (Session.start config console).calls = { limit := config.maxDepth } := by
  have keeps : (Builtin.all.forM declareBuiltin).KeepsStacks :=
    (start_sim (C := self) (fun _ _ => trivial) trivial).keepsStacks
  have left := keeps (Session.blank config console)
  rw [Session.start_eq]
  generalize Builtin.all.forM declareBuiltin (Session.blank config console) = o at left
  cases o with
  | done _ s | failed _ s => exact left s rfl
  | exhausted => exact ⟨rfl, rfl⟩

/-- Between programs the global scope has been entered, and no call is in progress. -/
lemma Session.Reachable.stacks {s : Session} (h : s.Reachable) :
    s.entered = [Session.globalScope] ∧ s.calls.frames = [] := by
  induction h with
  | start config console =>
    obtain ⟨entered, calls⟩ := start_stacks config console
    exact ⟨entered, congrArg CallStack.frames calls⟩
  | run _ leads ih =>
    -- It makes no difference whether the program has failed.
    obtain ⟨steps, program, left⟩ := leads
    obtain ⟨entered, calls⟩ := runProgram_keepsStacks steps program _ _ left
    exact ⟨entered.trans ih.1, (congrArg CallStack.frames calls).trans ih.2⟩

/-- Statements, expressions, calls and constructions leave the scopes that have been entered and
the calls in progress as they found them, in every session and however they end; and so between
programs, the failed ones included, the innermost scope is the global one and no call is in
progress. -/
theorem stacks_balanced (steps : Nat) :
    (∀ stmt why, (exec steps stmt why).KeepsStacks) ∧
    (∀ stmts why, (runStatements (.within steps) why stmts).KeepsStacks) ∧
    (∀ expr why, (eval steps expr why).KeepsStacks) ∧
    (∀ id args why, (callFunction (.within steps) id args why).KeepsStacks) ∧
    (∀ receiver method args why,
      (callMethod (.within steps) receiver method args why).KeepsStacks) ∧
    (∀ className args why, (newObject (.within steps) className args why).KeepsStacks) ∧
    (∀ className args why, (newHiddenObject (.within steps) className args why).KeepsStacks) ∧
    (∀ program, (runProgram (.within steps) program).KeepsStacks) ∧
    ∀ s : Session, s.Reachable → s.currentScope = Session.globalScope ∧
      s.entered = [Session.globalScope] ∧ s.calls.frames = [] := by
  have insides := self_insides steps
  have known (args : List Justified) : Justified.AllIn .all args :=
    fun info _ => ⟨Value.in_all _, trivial⟩
  have because (why : ReasonId) : Census.all.reason why := trivial
  refine ⟨?_, ?_, ?_, callFunction_keepsStacks steps, ?_, ?_, ?_, runProgram_keepsStacks steps, ?_⟩
  · intro stmt why
    exact (insides.exec trivial (because why)).keepsStacks
  · intro stmts why
    exact (runStatements_sim insides (because why) fun _ _ => trivial).keepsStacks
  · intro expr why
    exact (insides.eval trivial (because why)).keepsStacks
  · intro receiver method args why
    have calls := callMethod_sim insides (known [receiver] receiver (by simp)) method
      (known args) (because why)
    rw [self_infos] at calls
    exact calls.keepsStacks
  · intro className args why
    have makes := newObject_sim insides className (known args) (because why)
    rw [self_infos] at makes
    exact makes.keepsStacks
  · intro className args why
    have makes := newHiddenObject_sim insides className (known args) (because why)
    rw [self_infos] at makes
    exact makes.keepsStacks
  · intro s reachable
    obtain ⟨entered, frames⟩ := reachable.stacks
    exact ⟨by simp [Session.currentScope, entered], entered, frames⟩

end Because
