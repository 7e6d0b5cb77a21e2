import Because.Session.Basic
import Because.Text.Numeral

/-!
# The prompt

After a program has ended, questions about its reasons are answered line by line. A question is
`why`, a number and perhaps a depth. The prompt only reads the graph of reasons, so that the same
question has the same answer whenever it is asked.
-/

namespace Because

/-- What a line at the prompt asks for. -/
inductive Command where
  | why (id : ReasonId) (depth : Nat)
  | help (topic : Option String)
  | quit
  | empty
  /-- A line that means nothing. -/
  | invalid (line : String)
  deriving DecidableEq, Inhabited

namespace Command

/-- The depth of an answer for which no depth is asked: a reason and its causes. -/
def defaultDepth : Nat := 1

/-- The number of a reason, which any number of `#` may precede. -/
def readId? (word : String) : Option ReasonId :=
  Text.readNat? Text.idBound (String.ofList (word.toList.dropWhile (· == '#')))

/-- A question by the words after `why`. Words after the depth count for nothing. -/
def ofWhyWords? : List String → Option Command
  | [] => none
  | [id] => (readId? id).map fun id => .why id defaultDepth
  | id :: depth :: _ => do
    let id ← readId? id
    let depth ← Text.readNat? Text.depthBound depth
    return .why id depth

/-- The command that a line gives. -/
def parse (line : String) : Command :=
  match Text.words line with
  | [] => .empty
  | "why" :: rest | "y" :: rest => (ofWhyWords? rest).getD (.invalid (Text.trim line))
  | "help" :: rest => .help rest.head?
  | "quit" :: _ | "exit" :: _ | "q" :: _ => .quit
  | _ => .invalid (Text.trim line)

end Command

/-- The list of commands. -/
def helpText : String :=
  "\n".intercalate
    ["why  <id> [depth] - ask how statement number <id> was deduced (also 'y')",
     "help [keyword]    - show this list, or usage of <keyword>",
     "quit              - leave the prompt"]

/-- What `help` says about `why`. -/
def whyHelpText : String :=
  "\n".intercalate
    ["why <id>          - list the statements that directly support statement <id>",
     "why <id> <depth>  - follow supporters <depth> levels deep",
     "",
     "Statements print as '- (#<id>) [line <n>]: <text>'; <n> is where the",
     "statement was made in the program."]

/-- What `help` says about a topic, or at all. -/
def helpOn : Option String → String
  | some "why" | some "y" => whyHelpText
  | some "quit" => "quit - leave the prompt"
  | some "help" => "help [keyword] - list the commands, or explain one"
  | some other => s!"Sorry; I don't recognize '{other}'.\n{helpText}"
  | none => helpText

namespace Session

/-- Why a reason holds, or which reasons there are. -/
def answerWhy (s : Session) (id : ReasonId) (depth : Nat) : String :=
  match s.graph.get id with
  | .error cause => s!"{cause.message}; known ids are 0 to {s.graph.size - 1}"
  | .ok _ =>
    match s.explain id (some depth) with
    | .ok explanation => explanation
    | .error cause => cause.message

/-- The answer to a command; nothing if the prompt is to be left. -/
def respond (s : Session) : Command → Option String
  | .why id depth => some (s.answerWhy id depth)
  | .help topic => some (helpOn topic)
  | .quit => none
  | .empty => some ""
  | .invalid line => some s!"Sorry; I don't understand '{line}'. Type 'help' for help."

end Session

/-- What a line at the prompt leads to. -/
inductive PromptStep where
  /-- The answer is written, and the next line is read. -/
  | answer (text : String)
  | leave
  /-- The line is no text. -/
  | unreadable
  deriving DecidableEq, Inhabited

namespace Prompt

/-- What is written before the first question. -/
def banner : String :=
  "\nType 'why <id>' to see how statement <id> was deduced, 'help' for help or 'quit' to leave.\n"

/-- What is written before every question. -/
def mark : String := "why> "

/-- What is written for an answer; an empty one takes no line. -/
def answerLine (answer : String) : String := if answer.isEmpty then "" else answer ++ "\n"

/-- What a line leads to. -/
def step (s : Session) : Text.InputLine → PromptStep
  | none => .unreadable
  | some line =>
    match s.respond (Command.parse line) with
    | some answer => .answer (answerLine answer)
    | none => .leave

/-- What has been written at the prompt, and which lines are left. -/
structure Transcript where
  text : String
  unread : List Text.InputLine
  /-- Whether all lines that were read were texts. -/
  readable : Bool := true
  deriving DecidableEq, Inhabited

/-- Answer lines until one leaves the prompt, is no text, or none is left. -/
def answerLines (s : Session) : List Text.InputLine → Transcript
  | [] => { text := mark ++ "\n", unread := [] }
  | line :: rest =>
    match step s line with
    | .answer text =>
      let later := answerLines s rest
      { later with text := mark ++ text ++ later.text }
    | .leave => { text := mark, unread := rest }
    | .unreadable => { text := mark, unread := rest, readable := false }

/-- Everything that is written at the prompt. -/
def transcript (s : Session) (lines : List Text.InputLine) : Transcript :=
  let answers := answerLines s lines
  { answers with text := banner ++ answers.text }

/-- How an unreadable line is reported. -/
def unreadableMessage : String := "stream did not contain valid UTF-8"

end Prompt

end Because
