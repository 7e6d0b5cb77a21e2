import Because.Builtin
import Because.Ledger
import Because.Value

/-!
# The state of built-in objects

An object of a built-in class, or of a class derived from one, has a handle: the text, list,
dictionary, truth value or number that the object stands for.
-/

namespace Because

/-- What decides which entry of a dictionary a key addresses. Texts, numbers and truth values
address by what they are, other objects by their identity. -/
inductive Key where
  | text (content : String)
  | number (value : Option Int)
  | truth (value : Bool)
  | object (scope : ScopeId)
  | plain (value : Value)
  deriving DecidableEq, Inhabited

/-- An entry of a dictionary: the key as it was last put, and its value. -/
structure Entry where
  key : Justified
  value : Justified
  deriving DecidableEq, Inhabited

/-- The state of a built-in object. -/
inductive Handle where
  | text (content : String) (why : ReasonId)
  | list (items : List Justified)
  /-- The entries, in the order in which their keys were first put, and where each stands. -/
  | dict (entries : Ledger Key Entry)
  | truth (value : Bool) (why : ReasonId)
  /-- A number, or none where a text denoted no number. -/
  | number (value : Option Int) (why : ReasonId)
  deriving DecidableEq, Inhabited

/-- The text of a number. -/
def numberText : Option Int → String
  | some value => toString value
  | none => "None"

namespace Handle

/-- The built-in class whose objects have such states. -/
def builtin : Handle → Builtin
  | .text _ _ => .string
  | .list _ => .list
  | .dict _ => .dict
  | .truth _ _ => .bool
  | .number _ _ => .num

/-- What an object is shown as; without it, the description of its scope is shown. -/
def display? : Handle → Option String
  | .text content _ => some content
  | .truth value _ => some (truthText value)
  | .number value _ => some (numberText value)
  | .list _ | .dict _ => none

/-- What a loop over the object visits. -/
def items? : Handle → Option (List Justified)
  | .list items => some items
  | .dict entries => some (entries.slots.map Entry.key)
  | _ => none

/-- The key that an object with this handle is. -/
def key (scope : ScopeId) : Handle → Key
  | .text content _ => .text content
  | .truth value _ => .truth value
  | .number value _ => .number value
  | .list _ | .dict _ => .object scope

end Handle

end Because
