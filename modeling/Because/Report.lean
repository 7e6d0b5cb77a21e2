import Because.Session.Basic

/-!
# Failure reports

What is written when a program fails: the failure, why the failing operation was attempted, and
the calls that were in progress.
-/

namespace Because

namespace Session

/-- Why the failing operation was attempted, as deep as the session explains failures. -/
def explainFailure? (s : Session) (failure : Failure) : Option String :=
  failure.why.bind fun id => (s.explain id (some s.config.explainDepth)).toOption

end Session

/-- The part of a report that says what failed. -/
def summaryPart (failure : Failure) : String :=
  s!"\nError summary:\n{failure.fault.message}\n"

/-- The part of a report that says why the failing operation was attempted, if that is known. -/
def explanationPart (s : Session) (failure : Failure) : String :=
  match s.explainFailure? failure with
  | some explanation => s!"\nError explanation:\n{explanation}\n"
  | none => ""

/-- The part of a report that lists the calls in progress, if there were any. -/
def tracePart (failure : Failure) : String :=
  match failure.trace with
  | some trace => if trace.entries.isEmpty then "" else "\n" ++ trace.text
  | none => ""

/-- The report of a failure. -/
def failureReport (s : Session) (failure : Failure) : String :=
  summaryPart failure ++ explanationPart s failure ++ tracePart failure

end Because
