import Because.Proofs.Explained
import Because.Proofs.Stacks

/-!
# Exact traces

A failure is given its trace late, when it leaves the calls that are in progress one after the
other. Yet the trace is that of the calls in progress where the failure arose. To say so, programs
are run in another way as well: it is known all along which functions are running, and a failure
takes them down at once, at the end of the innermost node that fails. While a node runs, calls begin
and end only inside of the nodes that lie inside it.
-/

namespace Because

/-! ## Taking down the running functions -/

/-- The entry of a trace for a call of a function: its name, and where it is declared unless it is
built in. -/
def FunctionDef.traceEntry (function : FunctionDef) : TraceEntry :=
  ⟨function.name, if function.loc.isBuiltin then none else some function.loc⟩

/-- The trace of running functions, the latest first. -/
def Trace.ofRunning (running : List FunctionDef) : Trace := ⟨running.map FunctionDef.traceEntry⟩

/-- The same failure with a trace, unless it has one. -/
def Failure.orTrace (failure : Failure) (trace : Trace) : Failure :=
  failure.withTrace (failure.trace.getD trace)

/-- A failure of the action takes down the running functions, unless one that is called by them
has been taken down with them. -/
def Action.tracing {α : Type} (running : List FunctionDef) (action : Eval α) : Eval α :=
  action.mapError (·.orTrace (.ofRunning running))

/-- How to run nodes while functions are running that every failure takes down where it arises. -/
def Inner.tracing : Nat → List FunctionDef → Inner
  | 0, _ => .spent
  | steps + 1, running =>
    { eval := fun expr why =>
        Action.tracing running (evalExpr (Inner.tracing steps running) expr why)
      exec := fun stmt why =>
        Action.tracing running (execStmt (Inner.tracing steps running) stmt why)
      call := fun id args why => Action.tracing running do
        let function ← Action.ask (·.functionAt id)
        if args.length = function.params.length then
          Action.inCall function.frame why (Action.tracing (function :: running)
            (runFunction (Inner.tracing steps (function :: running)) function args why))
        else
          refuseArgs function args why
      passes := steps + 1 }

/-- Run a program, outside of all functions, so that every failure takes down the running functions
where it arises. -/
def tracingProgram (steps : Nat) (program : Program) : Eval Unit :=
  Action.tracing [] (runProgram (.tracing steps []) program)

/-! ## Calls in progress and running functions -/

/-- The calls in progress are those of the running functions, and not more than the limit. -/
structure CallStack.Mirrors (calls : CallStack) (running : List FunctionDef) : Prop where
  frames : calls.frames = running.map FunctionDef.frame
  fits : ∀ n, calls.limit = some n → calls.depth ≤ n

namespace CallStack.Mirrors

variable {calls : CallStack} {running : List FunctionDef}

/-- The trace of the calls in progress is that of the running functions. -/
lemma trace (h : calls.Mirrors running) : calls.trace = .ofRunning running := by
  unfold CallStack.trace Trace.ofRunning
  rw [h.frames, List.map_map]
  rfl

/-- A call that begins adds its function to those that run. -/
lemma enter (h : calls.Mirrors running) (room : calls.isFull = false) (function : FunctionDef) :
    (calls.enter function.frame).Mirrors (function :: running) := by
  refine ⟨congrArg _ h.frames, ?_⟩
  intro n limited
  have limited : calls.limit = some n := limited
  simp only [isFull, limited, decide_eq_false_iff_not] at room
  simp only [depth, CallStack.enter, List.length_cons] at *
  omega

/-- If there is no room, as many functions are running as the limit allows. -/
lemma full (h : calls.Mirrors running) (full : calls.isFull = true) :
    calls.limit = some running.length := by
  have depth : calls.depth = running.length := by
    rw [CallStack.depth, h.frames, List.length_map]
  cases limited : calls.limit with
  | none =>
    rw [isFull, limited] at full
    cases full
  | some n =>
    have fits := h.fits n limited
    simp only [isFull, limited, decide_eq_true_eq] at full
    rw [← depth]
    congr 1
    omega

end CallStack.Mirrors

/-- Once a failure has a trace, another one changes nothing. -/
lemma Failure.orTrace_orTrace (failure : Failure) (trace trace' : Trace) :
    (failure.orTrace trace).orTrace trace' = failure.orTrace trace := rfl

/-- A call in progress adds the trace of the running functions to a failure. -/
lemma CallStack.Mirrors.attach {calls : CallStack} {function : FunctionDef}
    {running : List FunctionDef} (h : calls.Mirrors (function :: running)) (failure : Failure) :
    calls.attach failure = failure.orTrace (.ofRunning (function :: running)) := by
  obtain ⟨fault, why, trace⟩ := failure
  cases trace with
  | some trace => rfl
  | none =>
    simp only [CallStack.attach, h.trace, h.frames]
    rfl

/-! ## Failures that take down the running functions -/

/-- The second failure is the first one, and may have taken down the running functions. What an
inner call has left behind is a trace that is not empty, and the trace of a failure for want of room
has as many entries as the limit allows. -/
structure TakesDown (limit : Option Nat) (running : List FunctionDef) (failure other : Failure) :
    Prop where
  same : other = failure ∨ other = failure.orTrace (.ofRunning running)
  inner : ∀ trace, failure.trace = some trace → ∃ function callers,
    trace = .ofRunning (function :: callers)
  room : ∀ n, failure.fault = .recursionLimit n →
    limit = some n ∧ (failure.trace.getD (.ofRunning running)).entries.length = n

/-- The second failure has taken down the running functions. -/
structure TookDown (limit : Option Nat) (running : List FunctionDef) (failure other : Failure) :
    Prop where
  takes : TakesDown limit running failure other
  took : other = failure.orTrace (.ofRunning running)

variable {limit : Option Nat} {running : List FunctionDef} {calls : CallStack}

instance : Telling (TakesDown limit running) where
  fresh fresh := by
    refine ⟨.inl rfl, fun trace left => ?_, fun n full => absurd full (fresh.room n)⟩
    rw [fresh.trace] at left
    cases left
  orReason why related := by
    obtain ⟨same, inner, room⟩ := related
    refine ⟨?_, inner, room⟩
    obtain rfl | rfl := same
    · exact .inl rfl
    · exact .inr rfl

namespace TookDown

variable {failure other : Failure}

/-- What has taken down the running functions, or may have, has done so once they are added. -/
lemma of_takes (h : TakesDown limit running failure other) :
    TookDown limit running failure (other.orTrace (.ofRunning running)) := by
  have took : other.orTrace (.ofRunning running) = failure.orTrace (.ofRunning running) := by
    obtain rfl | rfl := h.same
    · rfl
    · rfl
  exact ⟨⟨.inr took, h.inner, h.room⟩, took⟩

/-- When a failure leaves the call in which it arose, its trace is what it has taken down. -/
lemma leaves {function : FunctionDef} (h : TookDown limit (function :: running) failure other)
    (mirrors : calls.Mirrors (function :: running)) :
    TakesDown limit running (calls.attach failure) (calls.attach other) := by
  obtain ⟨⟨-, inner, room⟩, rfl⟩ := h
  rw [mirrors.attach, mirrors.attach, Failure.orTrace_orTrace]
  refine ⟨.inl rfl, ?_, room⟩
  rintro _ ⟨⟩
  cases arose : failure.trace with
  | none => exact ⟨function, running, rfl⟩
  | some trace => exact inner trace arose

end TookDown

/-- There is no room for a call because as many functions are running as the limit allows. -/
lemma CallStack.Mirrors.noRoom (h : calls.Mirrors running) (full : calls.isFull = true)
    (why : ReasonId) : TakesDown calls.limit running
      (.because (.recursionLimit (calls.limit.getD 0)) why)
      (.because (.recursionLimit (calls.limit.getD 0)) why) := by
  refine ⟨.inl rfl, nofun, ?_⟩
  rintro n ⟨⟩
  rw [h.full full]
  exact ⟨rfl, List.length_map ..⟩

/-- What takes down the running functions in the end has taken them down. -/
lemma Action.Alike.tracing {α : Type} {a b : Eval α}
    (h : Action.Alike (TakesDown limit running) calls a b) :
    Action.Alike (TookDown limit running) calls a (Action.tracing running b) := by
  intro s now
  have ends := h s now
  simp only [Action.tracing, Action.mapError]
  generalize a s = o, b s = o' at ends
  cases ends with
  | done keeps => exact .done keeps
  | failed keeps related => exact .failed keeps (.of_takes related)
  | exhausted => exact .exhausted

/-- What has taken down the running functions takes them down. -/
lemma Action.Alike.takesDown {α : Type} {a b : Eval α}
    (h : Action.Alike (TookDown limit running) calls a b) :
    Action.Alike (TakesDown limit running) calls a b :=
  h.weaken fun _ _ took => took.takes

/-- Nodes that take down the running functions run like those that do not. -/
lemma within_tracing (steps : Nat) (mirrors : calls.Mirrors running) :
    (Inner.within steps).Alike (TakesDown calls.limit running) calls
      (.tracing steps running) := by
  induction steps generalizing running calls with
  | zero => exact ⟨fun _ _ => .giveUp, fun _ _ => .giveUp, fun _ _ _ => .giveUp, rfl⟩
  | succ steps ih =>
    have insides := ih mirrors
    refine ⟨fun expr why => ?_, fun stmt why => ?_, fun id args why => ?_, rfl⟩
    · exact (evalExpr_alike insides expr why).tracing.takesDown
    · exact (execStmt_alike insides stmt why).tracing.takesDown
    · have begins (function : FunctionDef) (_ : args.length = function.params.length) :
          Action.Alike (TakesDown calls.limit running) calls
            (Action.inCall function.frame why
              (runFunction (.within steps) function args why))
            (Action.inCall function.frame why (Action.tracing (function :: running)
              (runFunction (.tracing steps (function :: running)) function args why))) := by
        refine .inCall (fun full => mirrors.noRoom full why) (fun room => ?_)
          fun room _ _ took => TookDown.leaves took (mirrors.enter room function)
        exact (runFunction_alike (ih (mirrors.enter room function)) function args why).tracing
      exact (callFunction_alike begins).tracing.takesDown

/-- A call that is refused for the number of its arguments fails before it begins. -/
lemma refuseArgs_fails (function : FunctionDef) (args : List Justified) (why : ReasonId)
    (now : Session) : ∃ failure now', refuseArgs function args why now = .failed failure now' ∧
      failure.trace = none := by
  simp only [refuseArgs, Bind.bind, Action.renderAll, Action.ask, Action.conj, Action.record]
  cases now.graph.add _ _ _ with
  | ok added => exact ⟨_, _, rfl, rfl⟩
  | error cause => exact ⟨_, _, rfl, rfl⟩

/-- So the caller is the latest of the functions that it takes down. -/
lemma tracing_refuses {steps : Nat} {id : FunctionId} {args : List Justified} {now : Session}
    (refused : args.length ≠ (now.functionAt id).params.length) (running : List FunctionDef)
    (why : ReasonId) :
    ∃ failure now', (Inner.tracing (steps + 1) running).call id args why now =
      .failed failure now' ∧ failure.trace = some (.ofRunning running) := by
  obtain ⟨failure, now', fails, fresh⟩ := refuseArgs_fails (now.functionAt id) args why now
  refine ⟨failure.orTrace (.ofRunning running), now', ?_, ?_⟩
  · simp only [Inner.tracing, Action.tracing, Action.mapError, Bind.bind, Action.ask,
      if_neg refused, fails]
  · simp only [Failure.orTrace, fresh]
    rfl

namespace Session

/-- Between programs, no functions are running in a session that can come about. -/
lemma Reachable.mirrors {s : Session} (h : s.Reachable) : s.calls.Mirrors [] := by
  obtain ⟨-, frames⟩ := h.stacks
  refine ⟨frames, fun n _ => ?_⟩
  rw [CallStack.depth, frames]
  exact Nat.zero_le n

/-- In every session that can come about, consider a program that fails, and the functions that were
running where the failure arose, the latest first. The failure has no trace if there were none, and
otherwise its trace is exactly that of these functions; if it is for want of room for another call,
they are as many as the limit allows. A call that is refused for the number of its arguments fails
while its caller is the latest of the running functions. -/
theorem Reachable.traces_exact {s : Session} (h : s.Reachable) {steps : Nat} {program : Program}
    {failure : Failure} {s' : Session}
    (fails : Because.runProgram (.within steps) program s = .failed failure s') :
    (∃ running : List FunctionDef,
      tracingProgram steps program s = .failed (failure.withTrace (.ofRunning running)) s' ∧
      failure.trace = (if running = [] then none else some (.ofRunning running)) ∧
      ∀ n, failure.fault = .recursionLimit n → s.calls.limit = some n ∧ running.length = n) ∧
    ∀ (steps : Nat) (id : FunctionId) (args : List Justified) (now : Session),
      args.length ≠ (now.functionAt id).params.length → ∀ running why,
        ∃ failure now', (Inner.tracing (steps + 1) running).call id args why now =
          .failed failure now' ∧ failure.trace = some (.ofRunning running) := by
  refine ⟨?_, fun _ _ _ _ refused => tracing_refuses refused⟩
  have ends : Outcome.Alike (TookDown s.calls.limit []) s
      (Because.runProgram (.within steps) program s) (tracingProgram steps program s) :=
    (runProgram_alike (within_tracing steps h.mirrors) program).tracing s rfl
  rw [fails] at ends
  generalize tracingProgram steps program s = o at ends ⊢
  cases ends with
  | failed _ took =>
    obtain ⟨⟨-, inner, room⟩, rfl⟩ := took
    cases arose : failure.trace with
    | none =>
      refine ⟨[], ?_, rfl, fun n full => ?_⟩
      · rw [Failure.orTrace, arose, Option.getD_none]
      · obtain ⟨limited, length⟩ := room n full
        rw [arose] at length
        exact ⟨limited, length⟩
    | some trace =>
      obtain ⟨function, callers, rfl⟩ := inner trace arose
      refine ⟨function :: callers, ?_, rfl, fun n full => ?_⟩
      · rw [Failure.orTrace, arose, Option.getD_some]
      · obtain ⟨limited, length⟩ := room n full
        rw [arose, Option.getD_some, Trace.ofRunning, List.length_map] at length
        exact ⟨limited, length⟩

/-- A program that calls a function which calls another one, which raises a failure. -/
def nested : Program :=
  let inner : Location := ⟨"prog", 1⟩
  let outer : Location := ⟨"prog", 3⟩
  [.declareFunction inner ⟨"inner", [], [.raise inner "no"], inner⟩,
    .declareFunction outer ⟨"outer", [], [.effect outer (.call outer "inner" [])], outer⟩,
    .effect outer (.call outer "outer" [])]

/-- The trace of the failure shows both functions, the inner one first. -/
theorem Reachable.traces_exact_of_nested :
    let s := Session.start {} {}
    ∃ failure s' running,
      Because.runProgram (.within 12) nested s = .failed failure s' ∧
      tracingProgram 12 nested s = .failed (failure.withTrace (.ofRunning running)) s' ∧
      Trace.ofRunning running =
        ⟨[⟨"inner", some ⟨"prog", 1⟩⟩, ⟨"outer", some ⟨"prog", 3⟩⟩]⟩ := by
  intro s
  have ran : (Because.runProgram (.within 12) nested s).failure?.map (·.1.trace) =
      some (some ⟨[⟨"inner", some ⟨"prog", 1⟩⟩, ⟨"outer", some ⟨"prog", 3⟩⟩]⟩) := by
    decide +kernel
  obtain ⟨⟨failure, s'⟩, fails, shown⟩ := Option.map_eq_some_iff.1 ran
  have fails := Outcome.eq_failed fails
  obtain ⟨⟨running, traced, trace, -⟩, -⟩ := (Reachable.start {} {}).traces_exact fails
  refine ⟨failure, s', running, fails, traced, ?_⟩
  rw [show failure.trace = _ from shown] at trace
  split at trace
  · cases trace
  · exact (Option.some.inj trace).symm

end Session

end Because
