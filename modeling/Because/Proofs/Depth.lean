import Because.Proofs.Stacks
import Because.Proofs.Watch

/-!
# The limit on the depth of calls

The limit is nothing but a limit: a run that does not fail by it is the same under every larger
limit and without any. It is respected at every moment, and a run fails by it exactly if, at some
moment, a call with the right number of arguments is attempted while so many calls are in
progress.
-/

namespace Because

/-- An action ends by the limit on the depth of calls. -/
def Outcome.HitsLimit {α : Type} (n : Nat) (o : Outcome Failure α) : Prop :=
  ∃ failure s, o = .failed failure s ∧ failure.fault = .recursionLimit n

/-- A call with the right number of arguments is attempted while `n` calls are in progress. -/
def Moment.Overflows (n : Nat) (now : Session) : Moment → Prop
  | .calling id args _ => args.length = (now.functionAt id).params.length ∧ now.calls.depth = n
  | _ => False

/-- A new session with a limit on the number of calls in progress, or with none. -/
def Session.startWithin (limit : Option Nat) (config : Config) (console : Console) : Session :=
  .start { config with maxDepth := limit } console

/-- At most `n` calls may be in progress, and not more are. -/
structure CallStack.Bounded (n : Nat) (calls : CallStack) : Prop where
  limit : calls.limit = some n
  depth : calls.depth ≤ n

namespace CallStack.Bounded

variable {n : Nat} {calls : CallStack}

/-- There is room for a call exactly if fewer calls are in progress. -/
lemma isFull_iff (h : calls.Bounded n) : calls.isFull = true ↔ calls.depth = n := by
  have le := h.depth
  simp only [isFull, h.limit, decide_eq_true_eq]
  omega

/-- If there is room, one more call keeps to the bound. -/
lemma enter (h : calls.Bounded n) (frame : Frame) (room : calls.isFull = false) :
    (calls.enter frame).Bounded n := by
  refine ⟨h.limit, ?_⟩
  have other : calls.depth ≠ n := by
    intro full
    rw [h.isFull_iff.2 full] at room
    cases room
  have le := h.depth
  simp only [CallStack.enter, CallStack.depth, List.length_cons] at *
  omega

/-- The limit is the bound itself. -/
lemma limit_getD (h : calls.Bounded n) : calls.limit.getD 0 = n := by
  rw [h.limit]
  rfl

end CallStack.Bounded

open Comparison

/-- A change of the session commutes with reading off where an action ended. -/
lemma session?_mapSession {ε α : Type} (g : Session → Session) (o : Outcome ε α) (s : Session) :
    (o.mapSession g).session?.getD (g s) = g (o.session?.getD s) := by
  cases o <;> rfl

/-- New sessions under two limits differ in nothing but the limit. -/
lemma startWithin_relimit (limit other : Option Nat) (config : Config) (console : Console) :
    Session.startWithin other config console =
      (Session.startWithin limit config console).relimit fun _ => other := by
  have lawful : (relimited (fun _ => other) (fun _ => True) (fun _ => True)
      (fun _ => False)).Lawful := relimited_lawful fun _ _ => trivial
  -- Built-in classes are declared without any call, so that no room is asked for.
  have starts := start_sim (c := .all) (C := relimited (fun _ => other) (fun _ => True)
    (fun _ => True) (fun _ => False)) (fun _ _ => trivial) trivial
  simp only [Session.startWithin, Session.start_eq]
  generalize Builtin.all.forM declareBuiltin = action at starts
  have ends := starts _ _ (relimited_pair trivial _
    (Session.in_all (.blank { config with maxDepth := limit } console)))
  obtain same | ⟨_, _, _, never⟩ := relimited_eq ends
  · have left := session?_mapSession (Session.relimit fun _ => other)
      (action (.blank { config with maxDepth := limit } console))
      (.blank { config with maxDepth := limit } console)
    rw [← same] at left
    exact left
  · exact never.elim

/-- In a new session the calls in progress, none, keep to the limit. -/
lemma startWithin_bounded (n : Nat) (config : Config) (console : Console) :
    (Session.startWithin (some n) config console).calls.Bounded n := by
  have calls := (start_stacks { config with maxDepth := some n } console).2
  unfold Session.startWithin
  rw [calls]
  exact ⟨rfl, Nat.zero_le n⟩

variable {n : Nat}

/-- A larger limit leaves room where there was room. -/
lemma CallStack.Bounded.isFull_larger {calls : CallStack} (h : calls.Bounded n)
    (room : calls.isFull = false) {limit : Option Nat} (le : ∀ m ∈ limit, n ≤ m) :
    CallStack.isFull { calls with limit } = false := by
  cases limit with
  | none => rfl
  | some m =>
    have larger := le m rfl
    have depth := h.depth
    have below : calls.depth ≠ n := by
      intro full
      rw [h.isFull_iff.2 full] at room
      cases room
    simp only [CallStack.isFull, decide_eq_false_iff_not]
    change ¬ m ≤ calls.depth
    omega

/-! ## Larger limits -/

/-- A run that does not end by the limit is the same under a larger one, or under none. -/
lemma relimit_run {s : Session} (h : s.calls.Bounded n) (steps : Nat) (program : Program)
    {limit : Option Nat} (le : ∀ m ∈ limit, n ≤ m)
    (ends : ¬ (runProgram (.within steps) program s).HitsLimit n) :
    runProgram (.within steps) program (s.relimit fun _ => limit) =
      (runProgram (.within steps) program s).mapSession (Session.relimit fun _ => limit) := by
  let C := relimited (fun _ => limit) (·.Bounded n) (fun _ => True) (· = .recursionLimit n)
  have lawful : C.Lawful := relimited_lawful fun _ _ => trivial
  -- Where the first run has room for a call, the second has; where it has none, it ends.
  have room : ∀ {c : Census} {s t : Session} (frame : Frame), C.Pair c s t →
      C.Room c frame s t := by
    intro c s t frame pair
    obtain ⟨rfl, bounded⟩ := pair.holds
    cases e : s.calls.isFull with
    | true => exact .escaped e (congrArg Fault.recursionLimit bounded.limit_getD)
    | false => exact .room e (bounded.isFull_larger e le) ⟨rfl, bounded.enter frame e⟩
  have insides := Insides.within (C := C) relimited_admits room steps
  have runs := runProgram_sim insides program (fun _ _ => trivial) _ _
    (relimited_pair h .all s.in_all)
  obtain same | ⟨failure, s', fails, escapes⟩ := relimited_eq runs
  · exact same
  · exact absurd ⟨failure, s', fails, escapes⟩ ends

/-! ## Runs compared with themselves -/

namespace Comparison

/-- The comparison of a run with itself, along which at most `n` calls are in progress. -/
def bounded (n : Nat) (fault escape : Fault → Prop) : Comparison :=
  relimited id (·.Bounded n) fault escape

variable {fault escape : Fault → Prop} {c : Census} {s t : Session}

/-- The comparison along which calls are bounded respects every change of a session. -/
lemma bounded_lawful (others : ∀ cause, (∀ d, cause ≠ .recursionLimit d) → fault cause) :
    (bounded n fault escape).Lawful :=
  relimited_lawful others

/-- A session whose calls are bounded corresponds to itself. -/
lemma bounded_pair (h : s.calls.Bounded n) : (bounded n fault escape).Pair .all s s :=
  relimited_pair h .all s.in_all

/-- If there is no room for a call, the run fails by the limit. -/
lemma bounded_room (full : fault (.recursionLimit n) ∨ escape (.recursionLimit n))
    (frame : Frame) (pair : (bounded n fault escape).Pair c s t) :
    (bounded n fault escape).Room c frame s t := by
  refine relimited_id_room (fun calls h _ => ?_) (fun calls frame h room => ?_) frame pair
  · rw [h.limit_getD]
    exact full
  · exact h.enter frame room

end Comparison

/-! ## The depth of calls -/

/-- No more calls than the limit allows are in progress at any moment. -/
lemma depth_le {s : Session} (h : s.calls.Bounded n) (steps : Nat) (program : Program) :
    s.Throughout steps program fun _ now => now.calls.depth ≤ n := by
  let C := bounded n (fun _ => True) (fun _ => False)
  have lawful : C.Lawful := bounded_lawful fun _ _ => trivial
  have le : ∀ {c : Census} {s t : Session}, C.Pair c s t → t.calls.depth ≤ n := by
    intro c s t pair
    obtain ⟨rfl, bounded⟩ := pair.holds
    exact bounded.depth
  have passes : C.Passes fun _ now => now.calls.depth ≤ n :=
    ⟨fun _ pair _ => le pair, fun _ pair _ => le pair, fun pair _ => le pair,
      fun pair _ => le pair, fun pair _ => le pair⟩
  intro alarm
  have insides := Insides.watchedWithin (C := C) relimited_admits (bounded_room (.inl trivial))
    passes (fun pair _ _ _ => le pair) alarm steps
  have runs := runProgram_sim insides program (fun _ _ => trivial) _ _
    (bounded_pair h)
  exact (relimited_id_eq runs).resolve_right fun ⟨_, _, _, never⟩ => never

/-! ## Calls that overflow -/

/-- A call with the right number of arguments fails by the limit, without any effect, if there is
no room for it. -/
lemma callFunction_full {inner : Inner} {id : FunctionId} {args : List Justified}
    {why : ReasonId} {now : Session} (h : now.calls.Bounded n)
    (overflows : (Moment.calling id args why).Overflows n now) :
    callFunction inner id args why now = .failed (.because (.recursionLimit n) why) now := by
  obtain ⟨fits, full⟩ := overflows
  rw [callFunction_eq, if_pos fits]
  simp only [Action.inCall, CallStack.push, h.isFull_iff.2 full, if_true, h.limit_getD]

/-- Only the start of a call can overflow. -/
lemma passes_overflows {C : Comparison} : C.Passes fun moment now => ¬ moment.Overflows n now :=
  ⟨fun _ _ _ => not_false, fun _ _ _ => not_false, fun _ _ => not_false, fun _ _ => not_false,
    fun _ _ => not_false⟩

/-- If a run does not end by the limit, no call overflows at any moment of it. -/
lemma throughout_of_not_hitsLimit {s : Session} (h : s.calls.Bounded n) (steps : Nat)
    (program : Program) (ends : ¬ (runProgram (.within steps) program s).HitsLimit n) :
    s.Throughout steps program fun moment now => ¬ moment.Overflows n now := by
  let C := bounded n (fun _ => True) (· = .recursionLimit n)
  have lawful : C.Lawful := bounded_lawful fun _ _ => trivial
  have admits : C.Admits := relimited_admits
  intro alarm
  have insides : ∀ steps, C.Insides (fun _ => True) (fun _ => True) (.within steps)
      (.watchedWithin (fun moment now => ¬ moment.Overflows n now) alarm steps) := by
    intro steps
    induction steps with
    | zero => exact .spent trivial
    | succ steps ih =>
      have next : C.Insides (fun _ => True) (fun _ => True) (.within (steps + 1))
          (Inner.watchedWithin (fun moment now => ¬ moment.Overflows n now) alarm steps).next := by
        rw [Inner.within_succ]
        refine ih.next (fun _ => admits.expr _) (fun _ => admits.stmt _) ?_
        intro d id args because _ ha hw
        exact callFunction_sim ih (fun _ _ => trivial) (bounded_room (.inl trivial)) id ha hw
      refine next.watched passes_overflows ?_
      intro c s t id args why pair _ _ _
      obtain ⟨rfl, bounded⟩ := pair.holds
      rw [show args.map (Justified.rename C.rename) = args from args.map_id]
      -- A call that overflows would set off the alarm, but there the unwatched run ends.
      by_cases overflows : (Moment.calling id args why).Overflows n s
      · exact .inr ⟨_, callFunction_full bounded overflows, rfl⟩
      · exact .inl overflows
  have runs := runProgram_sim (insides steps) program (fun _ _ => trivial) _ _
    (bounded_pair h)
  obtain same | ⟨failure, s', fails, escapes⟩ := relimited_id_eq runs
  · exact same
  · exact absurd ⟨failure, s', fails, escapes⟩ ends

/-- The comparison of a run with itself, along which no run fails by a limit. -/
def unlimited (n : Nat) : Comparison :=
  bounded n (fun cause => ∀ d, cause ≠ .recursionLimit d) (fun _ => False)

instance : (unlimited n).Lawful := bounded_lawful fun _ other => other

/-- A run that is watched for calls that overflow never fails by the limit: the alarm, if it is
not such a failure itself, comes first. -/
lemma unlimited_insides (steps : Nat) :
    (unlimited n).Insides (fun _ => True) (fun _ => True)
      (.watchedWithin (fun moment now => ¬ moment.Overflows n now) (.of (.raised "")) steps)
      (.watchedWithin (fun moment now => ¬ moment.Overflows n now) (.of (.raised "")) steps) := by
  have admits : (unlimited n).Admits := relimited_admits
  induction steps with
  | zero => exact .spent trivial
  | succ steps ih =>
    refine ⟨?_, ?_, ?_, fun _ => rfl⟩
    · intro c expr why _ hw s t pair
      have ends := evalExpr_sim ih (admits.expr expr) hw s t pair
      simp only [Inner.watchedWithin, Inner.watched]
      rw [watch_pass not_false (fun _ _ => not_false) fun _ _ => not_false,
        watch_pass not_false (fun _ _ => not_false) fun _ _ => not_false]
      exact ends
    · intro c stmt why _ hw s t pair
      have ends := execStmt_sim ih (admits.stmt stmt) hw s t pair
      simp only [Inner.watchedWithin, Inner.watched]
      rw [watch_pass not_false (fun _ _ => not_false) fun _ _ => not_false,
        watch_pass not_false (fun _ _ => not_false) fun _ _ => not_false]
      exact ends
    · intro c id args why _ ha hw s t pair
      obtain ⟨rfl, bounded⟩ := pair.holds
      have same : args.map (Justified.rename (unlimited n).rename) = args := args.map_id
      simp only [Inner.watchedWithin, Inner.watched, same]
      -- A call that overflows ends both runs by the alarm, and any other finds room.
      by_cases overflows : (Moment.calling id args why).Overflows n s
      · have stopped : ¬ ¬ (Moment.calling id args why).Overflows n s := not_not_intro overflows
        rw [watch_alarm stopped, watch_alarm stopped]
        exact .failed (.refl c) pair (.refl _) (.refl _) ⟨rfl, nofun, nofun⟩
      · rw [watch_pass overflows (fun _ _ => not_false) fun _ _ => not_false,
          watch_pass overflows (fun _ _ => not_false) fun _ _ => not_false]
        have ends := callFunction_ends ih (fun _ _ => trivial) pair id ha hw fun fits => ?_
        · rw [same] at ends
          exact ends
        · have room : s.calls.isFull = false := by
            rw [Bool.eq_false_iff, ne_eq, bounded.isFull_iff]
            exact fun full => overflows ⟨fits, full⟩
          exact .room room room ⟨rfl, bounded.enter _ room⟩

/-- If no call overflows at any moment of a run, it does not end by the limit. -/
lemma not_hitsLimit_of_throughout {s : Session} (h : s.calls.Bounded n) (steps : Nat)
    (program : Program)
    (throughout : s.Throughout steps program fun moment now => ¬ moment.Overflows n now) :
    ¬ (runProgram (.within steps) program s).HitsLimit n := by
  have runs := runProgram_sim (unlimited_insides steps) program (fun _ _ => trivial) _ _
    (bounded_pair h)
  rintro ⟨failure, s', fails, limit⟩
  rw [throughout (.of (.raised "")), fails] at runs
  cases runs with
  | failed _ _ _ _ related => exact related.2.2 n limit
  | escaped _ never => exact never

/-- In a new session with a limit of `n` calls: a run that does not end by the limit has the same
end, in the same session, under every larger limit and under none; at most `n` calls are in
progress at every moment of the run; and it ends by the limit exactly if at some moment of it a
call with the right number of arguments is attempted while `n` calls are in progress. Such a call
fails at once and without any effect. -/
theorem depth_limit_exact (config : Config) (console : Console) (program : Program)
    (n steps : Nat) :
    (∀ limit : Option Nat, (∀ m ∈ limit, n ≤ m) →
      ¬ (runProgram (.within steps) program
        (.startWithin (some n) config console)).HitsLimit n →
      runProgram (.within steps) program (.startWithin limit config console) =
        (runProgram (.within steps) program (.startWithin (some n) config console)).mapSession
          (Session.relimit fun _ => limit)) ∧
    ((Session.startWithin (some n) config console).Throughout steps program
      fun _ now => now.calls.depth ≤ n) ∧
    ((runProgram (.within steps) program (.startWithin (some n) config console)).HitsLimit n ↔
      ¬ (Session.startWithin (some n) config console).Throughout steps program
        fun moment now => ¬ moment.Overflows n now) ∧
    ∀ (inner : Inner) (id : FunctionId) (args : List Justified) (why : ReasonId) (now : Session),
      now.calls.Bounded n → (Moment.calling id args why).Overflows n now →
        callFunction inner id args why now = .failed (.because (.recursionLimit n) why) now := by
  have bounded := startWithin_bounded n config console
  refine ⟨?_, depth_le bounded steps program, ⟨?_, ?_⟩, ?_⟩
  · intro limit le ends
    rw [startWithin_relimit (some n) limit]
    exact relimit_run bounded steps program le ends
  · intro hits throughout
    exact not_hitsLimit_of_throughout bounded steps program throughout hits
  · intro overflows
    by_contra ends
    exact overflows (throughout_of_not_hitsLimit bounded steps program ends)
  · intro inner id args why now bounded overflows
    exact callFunction_full bounded overflows

end Because
