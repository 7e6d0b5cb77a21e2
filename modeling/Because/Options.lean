import Because.Session.Basic
import Because.Text.Numeral
import Because.Text.Split

/-!
# Options

The options of a run. The environment is read first, and arguments override what it says.
-/

namespace Because

/-- The options of a run. -/
structure RunOptions where
  config : Config := {}
  /-- Whether the prompt follows the run. -/
  prompt : Bool := true
  deriving DecidableEq, Inhabited

/-- What is wrong with an option. -/
inductive OptionError where
  | invalidValue (flag value : String)
  | unknown (option : String)
  deriving DecidableEq, Inhabited

/-- What is printed of an error in the options. -/
def OptionError.message : OptionError → String
  | .invalidValue flag value => s!"invalid value '{value}' for {flag}"
  | .unknown option => s!"unknown option '{option}'"

namespace RunOptions

/-- The environment variable that limits the number of calls in progress. -/
def maxDepthVariable : String := "RAVEL_MAX_DEPTH"

/-- Read a limit on the number of calls: a positive number, or `none` in any case. -/
def readMaxDepth (flag value : String) : Except OptionError (Option Nat) :=
  if value.map Char.toLower = "none" then .ok none
  else match Text.readNat? Text.depthBound value with
    | some (depth + 1) => .ok (some (depth + 1))
    | _ => .error (.invalidValue flag value)

/-- Read the depth of the explanation of a failure. -/
def readExplainDepth (value : String) : Except OptionError Nat :=
  match Text.readNat? Text.depthBound value with
  | some depth => .ok depth
  | none => .error (.invalidValue "--explain-depth" value)

/-- Set the limit on the number of calls. -/
def setMaxDepth (options : RunOptions) (flag value : String) : Except OptionError RunOptions := do
  let maxDepth ← readMaxDepth flag value
  return { options with config := { options.config with maxDepth } }

/-- Set the depth of the explanation of a failure. -/
def setExplainDepth (options : RunOptions) (value : String) : Except OptionError RunOptions := do
  let explainDepth ← readExplainDepth value
  return { options with config := { options.config with explainDepth } }

/-- What an argument is. -/
inductive Argument where
  | maxDepth (value : String)
  | explainDepth (value : String)
  | noPrompt
  | unknown (option : String)
  | positional (argument : String)
  deriving DecidableEq, Inhabited

/-- Tell what an argument is. -/
def classify (argument : String) : Argument :=
  match Text.dropStart? "--max-depth=" argument, Text.dropStart? "--explain-depth=" argument with
  | some value, _ => .maxDepth value
  | none, some value => .explainDepth value
  | none, none =>
    if argument = "--no-post-mortem" then .noPrompt
    else if argument.toList.head? = some '-' then .unknown argument
    else .positional argument

/-- Read arguments from left to right. The result holds the arguments that are no options. -/
def readArguments (options : RunOptions) :
    List String → Except OptionError (RunOptions × List String)
  | [] => .ok (options, [])
  | argument :: rest =>
    match classify argument with
    | .maxDepth value => do (← options.setMaxDepth "--max-depth" value).readArguments rest
    | .explainDepth value => do (← options.setExplainDepth value).readArguments rest
    | .noPrompt => { options with prompt := false }.readArguments rest
    | .unknown option => .error (.unknown option)
    | .positional argument => do
      let (options, positional) ← options.readArguments rest
      return (options, argument :: positional)

/-- Read the environment and then the arguments. -/
def parse (arguments : List String) (environment : Option String) :
    Except OptionError (RunOptions × List String) := do
  let options ← match environment with
    | some value => ({} : RunOptions).setMaxDepth maxDepthVariable value
    | none => .ok {}
  options.readArguments arguments

end RunOptions

end Because
