import Because.CommandLine

/-!
# The command

Reads arguments, environment and standard input, and writes what the library answers. The
built-in programs ask nothing, so that standard input belongs to the prompt.
-/

namespace Because

/-- The next line of standard input, if there is one. -/
def readInputLine (stdin : IO.FS.Stream) : IO (Option Text.InputLine) := do
  let mut bytes : ByteArray := .empty
  let mut more := true
  while more do
    let byte ← stdin.read 1
    if byte.isEmpty then
      more := false
    else
      bytes := bytes ++ byte
      more := byte.data[0]? != some 10
  return if bytes.isEmpty then none else some (Text.decodeLine bytes.toList)

/-- Answer questions until the prompt is left, and give the exit status. -/
partial def servePrompt (run : Run) : IO UInt32 := do
  let stdout ← IO.getStdout
  stdout.putStr Prompt.mark
  stdout.flush
  match ← readInputLine (← IO.getStdin) with
  | none =>
    stdout.putStr "\n"
    return run.status.toUInt32
  | some line =>
    match Prompt.step run.session line with
    | .answer text =>
      stdout.putStr text
      servePrompt run
    | .leave => return run.status.toUInt32
    | .unreadable =>
      (← IO.getStderr).putStr (CommandLine.errorLine Prompt.unreadableMessage)
      return 1

/-- Run a program and give the exit status. -/
def serveRun (program : Program) (options : RunOptions) : IO UInt32 := do
  let stdout ← IO.getStdout
  match Run.ofProgram? program options {} with
  | none =>
    (← IO.getStderr).putStr (CommandLine.errorLine "the program did not end")
    return 1
  | some run =>
    stdout.putStr (run.session.console.printed ++ run.report)
    stdout.flush
    if run.prompts then
      stdout.putStr Prompt.banner
      servePrompt run
    else
      return run.status.toUInt32

end Because

/-- The command. -/
def main (arguments : List String) : IO UInt32 := do
  let environment ← IO.getEnv Because.RunOptions.maxDepthVariable
  match Because.CommandLine.decide arguments environment with
  | .reply response =>
    (← IO.getStderr).putStr response.stderr
    (← IO.getStdout).putStr response.stdout
    return response.status.toUInt32
  | .run program options => Because.serveRun program options
