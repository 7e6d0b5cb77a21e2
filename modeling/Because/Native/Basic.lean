import Because.Session.Action

/-!
# Built-in constructors and methods

What a built-in constructor or method can fail with, and how the failure is reported.
-/

namespace Because

/-- Why a built-in constructor or method failed. -/
inductive NativeFault where
  | unknownMethod (method : String)
  | arity (method : String) (expected got : Nat)
  | wrongType (method expected : String)
  | outOfRange (index : Int) (length : Nat)
  | overflow (operation : String)
  /-- The failure came from the program, which the method had called. -/
  | failure (cause : Failure)
  deriving DecidableEq, Inhabited

namespace NativeFault

/-- What the report says of a fault. -/
def message : NativeFault → String
  | .unknownMethod method => s!"no native method named {method}"
  | .arity method expected got => s!"{method} expects {expected} arguments, got {got}"
  | .wrongType method expected => s!"{method} expects a {expected} argument"
  | .outOfRange index length => s!"index {index} is out of range for {length} items"
  | .overflow operation => s!"integer overflow in {operation}"
  | .failure cause => cause.fault.message

/-- The failure of the program that called the method. -/
def toFailure (className method : String) : NativeFault → Failure
  | .failure cause => cause
  | fault => .of (.native className method fault.message)

end NativeFault

/-- Work of a built-in constructor or method. -/
abbrev Native := Action NativeFault

namespace Native

/-- Work of the program inside that of a method. -/
instance : MonadLift Eval Native where
  monadLift action := action.mapError .failure

/-- Report the failure of a method as one of the program, for a reason unless it has its own. -/
@[inline] def toEval {α : Type} (className method : String) (why : ReasonId)
    (native : Native α) : Eval α :=
  native.mapError fun fault => (fault.toFailure className method).orReason why

def withNone {α : Type} (method : String) (args : List Justified) (body : Native α) : Native α :=
  match args with
  | [] => body
  | args => Action.fail (.arity method 0 args.length)

def withOne {α : Type} (method : String) (args : List Justified)
    (body : Justified → Native α) : Native α :=
  match args with
  | [arg] => body arg
  | args => Action.fail (.arity method 1 args.length)

def withTwo {α : Type} (method : String) (args : List Justified)
    (body : Justified → Justified → Native α) : Native α :=
  match args with
  | [first, second] => body first second
  | args => Action.fail (.arity method 2 args.length)

/-- The text that an argument holds. -/
def expectText (method : String) (info : Justified) : Native (String × ReasonId) := do
  match ← Action.ask (·.textOf? info.value) with
  | some found => return found
  | none => Action.fail (.wrongType method "String")

/-- The truth value that an argument holds. -/
def expectTruth (method : String) (info : Justified) : Native (Bool × ReasonId) := do
  match ← Action.ask (·.truthOf? info.value) with
  | some found => return found
  | none => Action.fail (.wrongType method "Bool")

/-- The number that an argument holds. -/
def expectNumber (method : String) (info : Justified) : Native (Option Int × ReasonId) := do
  match ← Action.ask (·.numberOf? info.value) with
  | some found => return found
  | none => Action.fail (.wrongType method "Num")

def comparison (equal : Bool) : String := if equal then "==" else "!="

/-- The handle of a new object, made from the arguments of its constructor. -/
def construct (builtin : Builtin) (args : List Justified) : Native Handle :=
  match builtin with
  | .string => withOne "String" args fun arg =>
    match arg.value with
    | .str content => return .text content arg.why
    | _ => Action.fail (.wrongType "String" "text")
  | .list => withNone "List" args do return .list []
  | .dict => withNone "Dict" args do return .dict {}
  | .bool => withOne "Bool" args fun arg =>
    match arg.value with
    | .bool value => return .truth value arg.why
    | _ => Action.fail (.wrongType "Bool" "boolean")
  | .num => withOne "Num" args fun arg =>
    match arg.value with
    | .int value => return .number (some value) arg.why
    | .none => return .number none arg.why
    | _ => Action.fail (.wrongType "Num" "integer")

end Native

end Because
