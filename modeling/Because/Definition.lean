import Because.Assoc
import Because.Builtin
import Because.Program.Basic
import Because.Value

/-!
# Definitions

What a session keeps of the functions and classes that it has met.
-/

namespace Because

/-- A function or method. -/
structure FunctionDef where
  name : String
  params : List String
  body : List Stmt
  /-- The class that declares the method. Calls of `super` in its body go to the parent of this
  class, whichever object they are made on. -/
  owner : Option ClassId
  loc : Location
  deriving Inhabited

/-- The functions that answer to the names of methods. -/
abbrev MethodTable := Assoc String FunctionId

/-- A class. -/
structure ClassDef where
  name : String
  parent : Option ClassId
  /-- The fields that the class itself declares. -/
  fields : List String
  /-- Holds the methods that the class itself declares; a child of that of the parent. -/
  implScope : ScopeId
  /-- All methods, the inherited ones included. -/
  methods : MethodTable
  /-- Which built-in class it is, if it is one. -/
  builtin : Option Builtin
  /-- The nearest built-in class above it or itself, which makes the handles of its objects. -/
  nativeBase : Option ClassId
  deriving Inhabited

namespace ClassDef

/-- How a class itself is shown. -/
def text (classDef : ClassDef) : String :=
  match classDef.builtin with
  | some _ => s!"native classdef:{classDef.name}"
  | none => s!"classdef:{classDef.name}"

end ClassDef

end Because
