import Because.Demo
import Because.Run

/-!
# The command line

What the command answers to its arguments. The first argument says what to do; everything else is
read as options of a run.
-/

namespace Because

/-- What a command leaves behind. -/
structure Response where
  status : Nat
  stdout : String := ""
  stderr : String := ""
  deriving DecidableEq, Inhabited

namespace CommandLine

/-- Lines, each with its line feed. -/
def unlines (lines : List String) : String := String.join (lines.map fun line => line ++ "\n")

def usage : String :=
  unlines
    ["Ravel - an interpreter that can explain its results",
     "",
     "Usage: ravel <command> [options]",
     "",
     "Commands:",
     "  demo <name>   Run a built-in program (omit <name> to list them)",
     "  help          Show this message",
     "",
     "Options:",
     s!"  --max-depth=<n>      Limit nested calls (or 'none'; env: {RunOptions.maxDepthVariable})",
     "  --explain-depth=<n>  Depth of the explanation in failure reports",
     "  --no-post-mortem     Exit without the 'why' prompt",
     "",
     "Set RUST_LOG (e.g. RUST_LOG=ravel_eval=debug) to trace evaluation."]

/-- A text, with blanks after it up to a width. -/
def padded (width : Nat) (text : String) : String :=
  text ++ String.ofList (List.replicate (width - text.length) ' ')

def demoList : String :=
  unlines ("Available demos:" :: Demo.all.map fun demo =>
    "  " ++ padded 12 demo.name ++ " " ++ demo.summary)

/-- What a command is to do. -/
inductive Decision where
  /-- Answer without running anything. -/
  | reply (response : Response)
  | run (program : Program) (options : RunOptions)
  deriving Inhabited

def errorLine (message : String) : String := s!"error: {message}\n"

/-- Choose a built-in program by the arguments after `demo`. -/
def chooseDemo (arguments : List String) (environment : Option String) : Decision :=
  match RunOptions.parse arguments environment with
  | .error error => .reply { status := 1, stderr := errorLine error.message }
  | .ok (_, []) => .reply { status := 0, stdout := demoList }
  | .ok (options, name :: _) =>
    match Demo.find? name with
    | some demo => .run demo.program options
    | none =>
      .reply { status := 1, stdout := demoList, stderr := errorLine s!"unknown demo '{name}'" }

/-- What the arguments of the command ask for. -/
def decide (arguments : List String) (environment : Option String) : Decision :=
  match arguments with
  | [] => .reply { status := 0, stdout := usage }
  | "demo" :: rest => chooseDemo rest environment
  | "help" :: _ | "--help" :: _ | "-h" :: _ => .reply { status := 0, stdout := usage }
  | other :: _ =>
    .reply { status := 1, stdout := usage, stderr := errorLine s!"unknown command '{other}'" }

/-- Run a program that shares its input with the prompt. -/
def runShared (program : Program) (options : RunOptions) (input : List Text.InputLine) :
    Option Response := do
  let run ← Run.ofProgram? program options { input }
  let prompt := run.transcript run.session.console.input
  let stdout := run.session.console.printed ++ prompt.text
  if prompt.readable then
    return { status := run.status, stdout }
  else
    return { status := 1, stdout, stderr := errorLine Prompt.unreadableMessage }

/-- What the command leaves behind. -/
def respond (arguments : List String) (environment : Option String)
    (input : List Text.InputLine) : Option Response :=
  match decide arguments environment with
  | .reply response => some response
  | .run program options => runShared program options input

end CommandLine

end Because
