import Because.Proofs.Graph.Records
import Because.Proofs.Integrity
import Because.Proofs.Questions
import Because.Proofs.Text.Lines
import Because.Run

/-!
# Transcripts of runs

How a program ends decides what its run reports and whether the prompt follows, and nothing that is
typed at the prompt changes the exit status. The prompt answers the lines one after the other, up to
the first one that leaves it, and leaves unread what comes after that.
-/

namespace Because

namespace Prompt

/-- The line leaves the prompt: its first word says so. -/
def Leaves (line : String) : Prop :=
  ∃ word later, Text.Spaced line.toList (word :: later) ∧ word ∈ ["quit", "exit", "q"]

/-- What a line is answered by; nothing if it leaves the prompt. -/
def answer (s : Session) (line : String) : String := (s.respond (Command.parse line)).getD ""

/-- What is written for a line that does not leave the prompt. -/
def entry (s : Session) (line : String) : String := mark ++ answerLine (answer s line)

/-- What is written at the prompt for some lines, and those of them that are left unread. -/
inductive Dialogue (s : Session) : List String → String → List String → Prop where
  | left {before line after} : (∀ other ∈ before, ¬ Leaves other) → Leaves line →
    Dialogue s (before ++ line :: after) (String.join (before.map (entry s)) ++ mark) after
  | ended {lines} : (∀ line ∈ lines, ¬ Leaves line) →
    Dialogue s lines (String.join (lines.map (entry s)) ++ (mark ++ "\n")) []

/-- What is written after a program has ended: its report, and then what is written at the prompt if
it follows. -/
inductive Follows (options : RunOptions) (s : Session) (report : String) (lines : List String) :
    String → List String → Prop where
  | prompt {text unread} : options.prompt = true → Dialogue s lines text unread →
    Follows options s report lines (report ++ (banner ++ text)) unread
  | none : options.prompt = false → Follows options s report lines report lines

variable {s : Session} {line text : String} {lines before after unread : List String}
  {options : RunOptions} {report : String}

/-! ## Lines -/

end Prompt

namespace Run

open Prompt

variable {options : RunOptions} {s : Session} {lines : List String}

/-- With how a program ends: the exit status, all that is written besides what the program prints,
and the lines for the prompt that are left unread. -/
inductive Concludes (options : RunOptions) (lines : List String) :
    Outcome Failure Unit → Nat → String → List String → Prop where
  | done {s text unread} : Follows options s "" lines text unread →
    Concludes options lines (.done () s) 0 text unread
  | failed {failure s text unread} : failure.fault ≠ .inputExhausted →
    Follows options s (failureReport s failure) lines text unread →
    Concludes options lines (.failed failure s) 1 text unread
  | starved {failure s} : failure.fault = .inputExhausted →
    Concludes options lines (.failed failure s) 0 "" lines

end Run

end Because
