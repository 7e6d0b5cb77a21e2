import Because.Eval.Run
import Because.Options
import Because.Prompt
import Because.Report
import Because.Session.Start

/-!
# Runs

A run takes a program from the start of a session to an exit status. A failure is reported, and
the prompt follows unless an option forbids it. A program that runs out of input ends at once,
without report or prompt.
-/

namespace Because

/-- A run whose program has ended. -/
structure Run where
  status : Nat
  /-- The report of a failure. -/
  report : String
  /-- Whether the prompt follows. -/
  prompts : Bool
  session : Session
  deriving Inhabited

namespace Run

/-- Run a program in a new session. There is no result if the program takes more steps than any
run can take. -/
def ofProgram? (program : Program) (options : RunOptions) (console : Console) : Option Run :=
  match (Session.start options.config console).runProgram program with
  | .done _ session => some { status := 0, report := "", prompts := options.prompt, session }
  | .failed failure session =>
    if failure.isCleanEnd then
      some { status := failure.exitStatus, report := "", prompts := false, session }
    else
      some { status := failure.exitStatus, report := failureReport session failure,
             prompts := options.prompt, session }
  | .exhausted => none

/-- What follows the program, if the prompt reads the given lines. -/
def transcript (run : Run) (lines : List Text.InputLine) : Prompt.Transcript :=
  if run.prompts then
    let prompt := Prompt.transcript run.session lines
    { prompt with text := run.report ++ prompt.text }
  else
    { text := run.report, unread := lines }

end Run

end Because
