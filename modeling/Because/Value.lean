import Because.Graph.Basic
import Because.Program.Text

/-!
# Values

A program computes values, and every value comes with the reason why it holds. Programs handle
objects; truth values, numbers and texts by themselves occur only as literals and inside the
objects of built-in classes.
-/

namespace Because

/-- The number of a scope. -/
abbrev ScopeId := Nat

/-- The number of a class. -/
abbrev ClassId := Nat

/-- The number of a function. -/
abbrev FunctionId := Nat

/-- The values that variables have; objects are known by their scopes. -/
inductive Value where
  | none
  | bool (value : Bool)
  | int (value : Int)
  | str (text : String)
  /-- An object is a scope that is tagged with a class. -/
  | object (scope : ScopeId)
  | classRef (id : ClassId)
  | functionRef (id : FunctionId)
  deriving DecidableEq, Inhabited

namespace Value

/-- The value that a literal stands for. -/
def ofLiteral : Literal → Value
  | .none => .none
  | .bool value => .bool value
  | .int value => .int value
  | .str text => .str text

/-- The scope of an object. -/
def scope? : Value → Option ScopeId
  | .object scope => some scope
  | _ => Option.none

def isObject (value : Value) : Bool := value.scope?.isSome

def isNone : Value → Bool
  | .none => true
  | _ => false

/-- The text of a value by itself. What an object, class or function is called depends on the
session that it belongs to; here only its number shows. -/
def text : Value → String
  | .none => "None"
  | .bool value => truthText value
  | .int value => toString value
  | .str text => text
  | .object scope => s!"object@{scope}"
  | .classRef id => s!"class@{id}"
  | .functionRef id => s!"function@{id}"

end Value

/-- A value and the reason why it holds. -/
structure Justified where
  value : Value
  why : ReasonId
  deriving DecidableEq, Inhabited

/-- None, for a reason. -/
def Justified.none (why : ReasonId) : Justified := ⟨.none, why⟩

end Because
