import Because.Proofs.Alike.Stmt
import Because.Proofs.Graph.Records
import Because.Proofs.Integrity
import Because.Report

/-!
# Explained failures

A failure names a reason, and its report explains why the failing operation was attempted. There is
one exception: a function, a class, a method, a parameter or a field that is declared twice is
refused without a reason, and then the report has no explanation. A variable that is declared twice
is refused for the reason of its declaration.
-/

namespace Because

/-! ## The reasons of failures -/

/-- The failures are the same, and it has a reason unless it may do without. -/
def SameReasoned (failure other : Failure) : Prop := other = failure ∧ failure.Reasoned

namespace Failure.Reasoned

variable {failure : Failure}

/-- A failure that names a reason has one. -/
lemma of_reason {why : ReasonId} (known : failure.why = some why) : failure.Reasoned := by
  intro missing
  rw [known] at missing
  cases missing

/-- A failure that gets a trace keeps its reason. -/
lemma attach (h : failure.Reasoned) (calls : CallStack) : (calls.attach failure).Reasoned := by
  unfold CallStack.attach
  split
  · exact h
  · exact h

end Failure.Reasoned

instance : Telling SameReasoned where
  fresh fresh := ⟨rfl, fresh.reasoned⟩
  orReason why related := by
    obtain ⟨rfl, -⟩ := related
    refine ⟨rfl, ?_⟩
    intro missing
    simp [Failure.orReason] at missing

/-- Whatever runs, it ends like itself and what it fails with has a reason unless it may do
without. -/
lemma within_alike (steps : Nat) (calls : CallStack) :
    (Inner.within steps).Alike SameReasoned calls (.within steps) := by
  induction steps generalizing calls with
  | zero => exact ⟨fun _ _ => .giveUp, fun _ _ => .giveUp, fun _ _ _ => .giveUp, rfl⟩
  | succ steps ih =>
    rw [Inner.within_succ]
    refine ⟨evalExpr_alike (ih calls), execStmt_alike (ih calls), ?_, rfl⟩
    intro id args why
    refine callFunction_alike fun function _ => ?_
    refine .inCall (fun _ => ⟨rfl, .of_reason rfl⟩)
      (fun _ => runFunction_alike (ih _) function args why) ?_
    rintro - failure _ ⟨rfl, reasoned⟩
    exact ⟨rfl, reasoned.attach _⟩

/-! ## Reports -/

/-- The report of a failure whose reason is explained. -/
lemma failureReport_explained {s : Session} {failure : Failure} {id : ReasonId}
    {explanation : String} (known : failure.why = some id)
    (explains : s.explain id (some s.config.explainDepth) = .ok explanation) :
    failureReport s failure = summaryPart failure ++ s!"\nError explanation:\n{explanation}\n" ++
      tracePart failure := by
  have found : s.explainFailure? failure = some explanation := by
    simp only [Session.explainFailure?, known, Option.bind_some, explains, Except.toOption]
  simp only [failureReport, explanationPart, found]

/-- The report of a failure without a reason explains nothing. -/
lemma failureReport_unexplained {s : Session} {failure : Failure} (missing : failure.why = none) :
    failureReport s failure = summaryPart failure ++ tracePart failure := by
  have found : s.explainFailure? failure = none := by
    simp only [Session.explainFailure?, missing, Option.bind_none]
  simp only [failureReport, explanationPart, found, String.append_empty]

namespace Session

/-- The failure names a reason of the session, and its report explains it. -/
def Explains (s : Session) (failure : Failure) : Prop :=
  ∃ (id : Nat) (explanation : String), failure.why = some id ∧ id < s.graph.size ∧
    s.explain id (some s.config.explainDepth) = .ok explanation ∧
    failureReport s failure = summaryPart failure ++
      s!"\nError explanation:\n{explanation}\n" ++ tracePart failure

/-- In a sound session every failure that names a reason of the session is explained. -/
lemma Sound.explains {s : Session} (h : s.Sound) {failure : Failure} {id : ReasonId}
    (known : failure.why = some id) (inside : failure.In s.census) : s.Explains failure := by
  have lt : Nat.lt id s.graph.size := inside id known
  obtain ⟨-, texts⟩ := h.ordered.grounded.explains lt
  obtain ⟨explanation, explains⟩ := texts (some s.config.explainDepth)
  exact ⟨id, explanation, known, lt, explains, failureReport_explained known explains⟩

/-- In every session that can come about, a program that fails does so for a reason of the session
that the failure left behind, and the report explains it; unless something was declared twice, and
then there may be neither reason nor explanation. -/
theorem Reachable.failures_explained {s : Session} (h : s.Reachable) {steps : Nat}
    {program : Program} {failure : Failure} {s' : Session}
    (fails : Because.runProgram (.within steps) program s = .failed failure s') :
    s'.Explains failure ∨
      failure.why = none ∧ (∃ name scope, failure.fault = .duplicateDeclaration name scope) ∧
        failureReport s' failure = summaryPart failure ++ tracePart failure := by
  obtain ⟨sound, inside, noGraph⟩ := (h.integrity steps program).2.2 failure s' fails
  cases known : failure.why with
  | some id => exact .inl (sound.explains known inside)
  | none =>
    refine .inr ⟨rfl, ?_, failureReport_unexplained known⟩
    have ends := runProgram_alike (within_alike steps s.calls) program s rfl
    rw [fails] at ends
    cases ends with
    | failed _ related =>
      obtain twice | ⟨cause, refused⟩ := related.2 known
      · exact twice
      · exact absurd refused (noGraph cause)

/-- A program that raises a failure in a new session. -/
theorem Reachable.failures_explained_of_raise :
    let s := Session.start {} {}
    ∃ failure s', Because.runProgram (.within 1) [.raise .builtin "no"] s = .failed failure s' ∧
      s'.Explains failure := by
  intro s
  obtain ⟨s', fails⟩ : ∃ s', Because.runProgram (.within 1) [.raise .builtin "no"] s =
      .failed (.because (.raised "no") s.graph.size) s' := ⟨_, rfl⟩
  obtain explains | ⟨missing, -⟩ := (Reachable.start {} {}).failures_explained fails
  · exact ⟨_, s', fails, explains⟩
  · cases missing

end Session

/-! ## Declarations that are refused -/

/-- A name that a scope binds already is refused, with a failure that names no reason. -/
lemma declare_bound {s : Session} {scope : ScopeId} {name : String}
    (bound : s.scopes.binds scope name = true) (info : Justified) :
    Action.declare scope name info s =
      .failed (.of (.duplicateDeclaration name (s.scopes.description scope))) s := by
  simp only [Action.declare, Scopes.declare, bound, if_true]

section

variable (inner : Inner) {now : Session} {name : String} (why : ReasonId)
  (bound : now.scopes.binds now.currentScope name = true)

include bound

/-- A variable that the current scope binds already is refused for the reason of the declaration,
once a reason for its first value has been recorded. -/
lemma execDeclare_bound (value : Expr) (loc : Location) :
    ∃ now', execDeclare inner name value loc why now = .failed (.because
      (.duplicateDeclaration name (now.scopes.description now.currentScope)) why) now' := by
  let now' : Session :=
    { now with graph := (now.graph.text "the default variable value is None").2 }
  have refused := declare_bound (s := now') bound (.none now.graph.size)
  refine ⟨now', Action.bind_failed (s := now')
    (a := (Action.declare now.currentScope name (.none now.graph.size)).mapError
      (·.withReason why)) ?_⟩
  simp only [Action.mapError, refused]
  rfl

/-- A function whose name the current scope binds already is refused without a reason, once the
function itself has been recorded. -/
lemma execFunction_bound (decl : Function) (named : decl.name = name) :
    ∃ now', execFunction decl why now = .failed (.of
      (.duplicateDeclaration name (now.scopes.description now.currentScope))) now' := by
  subst named
  let now' : Session := { now with
    functions := now.functions.push ⟨decl.name, decl.params, decl.body, none, decl.loc⟩ }
  exact ⟨now', declare_bound (s := now') bound ⟨.functionRef now.functions.size, why⟩⟩

/-- What the current scope binds is declared again: a variable is refused for the reason of its
declaration, and a function of that name without a reason. -/
theorem declared_twice (loc : Location) (value : Expr) (decl : Function)
    (named : decl.name = name) :
    let fault : Fault := .duplicateDeclaration name (now.scopes.description now.currentScope)
    (∃ now', execStmt inner (.declare loc name value) why now =
      .failed (.because fault why) now') ∧
    ∃ now', execStmt inner (.declareFunction loc decl) why now = .failed (.of fault) now' := by
  obtain ⟨now', refused⟩ := execDeclare_bound inner why bound value loc
  obtain ⟨now'', refused'⟩ := execFunction_bound why bound decl named
  exact ⟨⟨now', Action.bind_failed refused⟩, now'', Action.bind_failed refused'⟩

end

/-- A program that declares a function twice. -/
def twice : Program :=
  let decl : Function := ⟨"f", [], [], .builtin⟩
  [.declareFunction .builtin decl, .declareFunction .builtin decl]

/-- A function that is declared twice is refused without a reason, and the report of the failure
explains nothing. -/
theorem twice_unexplained : (Session.start {} {}).Reachable ∧
    ∃ failure s', runProgram (.within 4) twice (.start {} {}) = .failed failure s' ∧
      failure.why = none ∧ failureReport s' failure =
        "\nError summary:\nvariable 'f' already defined in global scope\n" := by
  refine ⟨.start {} {}, ?_⟩
  have ran : (runProgram (.within 4) twice (.start {} {})).failure?.map
      (fun (failure, s') => (failure.why, failureReport s' failure)) =
      some (none, "\nError summary:\nvariable 'f' already defined in global scope\n") := by
    decide +kernel
  obtain ⟨⟨failure, s'⟩, fails, same⟩ := Option.map_eq_some_iff.1 ran
  obtain ⟨missing, report⟩ := Prod.mk.inj same
  exact ⟨failure, s', Outcome.eq_failed fails, missing, report⟩

end Because
