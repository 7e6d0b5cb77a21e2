/-!
# The built-in classes

Every session starts with five classes whose objects carry state of their own.
-/

namespace Because

/-- A built-in class. -/
inductive Builtin where
  | string
  | list
  | dict
  | bool
  | num
  deriving DecidableEq, Inhabited

namespace Builtin

/-- The built-in classes in the order in which a session declares them. -/
def all : List Builtin := [.string, .list, .dict, .bool, .num]

/-- The name by which programs know the class. -/
def name : Builtin → String
  | .string => "String"
  | .list => "List"
  | .dict => "Dict"
  | .bool => "Bool"
  | .num => "Num"

/-- The methods of the class with their parameters, without `self`. -/
def methods : Builtin → List (String × List String)
  | .string =>
    [("split", ["separator"]), ("toString", []), ("plus", ["other"]),
     ("exceptPrefix", ["prefix"]), ("equals", ["other"])]
  | .list =>
    [("append", ["item"]), ("clear", []), ("get", ["index"]), ("tryGet", ["index"]),
     ("removeAt", ["index"]), ("getLength", []), ("toString", [])]
  | .dict => [("get", ["key"]), ("put", ["key", "value"]), ("containsKey", ["key"])]
  | .bool => [("toString", []), ("equals", ["other"])]
  | .num => [("toString", []), ("nonEmpty", []), ("equals", ["other"]), ("plus", ["other"])]

end Builtin

end Because
