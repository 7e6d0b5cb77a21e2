import Because.Graph.Basic

/-!
# Failures

A fault is the cause of a failure. A failure ends the running program; it carries the reason why
the failing operation was attempted and the calls that were in progress.
-/

namespace Because

/-- What went wrong. -/
inductive Fault where
  | undefinedVariable (name scope : String)
  | undefinedFunction (name scope : String)
  | undefinedClass (name : String)
  | duplicateDeclaration (name scope : String)
  | arityMismatch (name : String) (expected got : Nat)
  /-- A function returned something that is neither an object nor None. -/
  | invalidReturn (function value : String)
  /-- The graph of reasons refused. -/
  | graph (cause : GraphError)
  /-- A built-in method or constructor failed. -/
  | native (className method message : String)
  | invalidOperand (message : String)
  | recursionLimit (depth : Nat)
  | raised (message : String)
  | inputExhausted
  deriving DecidableEq, Inhabited

/-- What the report says of a fault. -/
def Fault.message : Fault → String
  | .undefinedVariable name scope => s!"undefined variable: '{name}' in {scope}"
  | .undefinedFunction name scope => s!"function '{name}' not defined in {scope}"
  | .undefinedClass name => s!"class {name} is not defined"
  | .duplicateDeclaration name scope => s!"variable '{name}' already defined in {scope}"
  | .arityMismatch name expected got =>
    s!"invalid number of arguments to function {name}: required {expected}, got {got}"
  | .invalidReturn function value =>
    s!"invalid value {value} (not Object) returned from {function}"
  | .graph cause => cause.message
  | .native className method message => s!"{className}.{method} failed: {message}"
  | .invalidOperand message => message
  | .recursionLimit depth => s!"maximum recursion depth exceeded (limit: {depth})"
  | .raised message => message
  | .inputExhausted => "end of input"

/-- A call in progress: the function, and where it is declared. -/
structure TraceEntry where
  name : String
  location : Option Location
  deriving DecidableEq, Inhabited

/-- The calls in progress at a failure, the newest first. -/
structure Trace where
  entries : List TraceEntry
  deriving DecidableEq, Inhabited

namespace TraceEntry

/-- The line of the call at a position of the trace. -/
def line (position : Nat) (entry : TraceEntry) : String :=
  match entry.location with
  | some loc => s!"  {position}: {entry.name} at {loc.fileAndLine}\n"
  | none => s!"  {position}: {entry.name}\n"

end TraceEntry

namespace Trace

/-- The text of a trace; nothing if no call was in progress. -/
def text (trace : Trace) : String :=
  if trace.entries.isEmpty then ""
  else "stack backtrace:\n" ++ String.join (trace.entries.mapIdx TraceEntry.line)

end Trace

/-- The end of a program by a fault. -/
structure Failure where
  fault : Fault
  /-- Why the failing operation was attempted. -/
  why : Option ReasonId := none
  trace : Option Trace := none
  deriving DecidableEq, Inhabited

namespace Failure

/-- A failure without a reason. -/
def of (fault : Fault) : Failure := { fault }

/-- A failure for a reason. -/
def because (fault : Fault) (why : ReasonId) : Failure := { fault, why := some why }

def withReason (failure : Failure) (why : ReasonId) : Failure := { failure with why := some why }

/-- The same failure for the given reason, unless it has one. -/
def orReason (failure : Failure) (why : ReasonId) : Failure :=
  { failure with why := failure.why <|> some why }

def withTrace (failure : Failure) (trace : Trace) : Failure :=
  { failure with trace := some trace }

/-- A program that runs out of input ends without having failed. -/
def isCleanEnd (failure : Failure) : Bool :=
  match failure.fault with
  | .inputExhausted => true
  | _ => false

/-- The exit status of a program that ended so. -/
def exitStatus (failure : Failure) : Nat := if failure.isCleanEnd then 0 else 1

end Failure

end Because
