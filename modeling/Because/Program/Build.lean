import Because.Program.Basic

/-!
# Derived forms

Expressions, statements and declarations that are written often and made of several nodes. The
nodes of one form share its location.
-/

namespace Because

namespace Expr

/-- A new String. -/
def string (loc : Location) (text : String) : Expr :=
  .new loc "String" [.const loc (.str text)]

/-- A new Num. -/
def num (loc : Location) (value : Int) : Expr :=
  .new loc "Num" [.const loc (.int value)]

/-- A new Bool. -/
def boolean (loc : Location) (value : Bool) : Expr :=
  .new loc "Bool" [.const loc (.bool value)]

/-- A property of `self`. -/
def selfProperty (loc : Location) (property : String) : Expr :=
  .property loc (.get loc selfName) property

end Expr

namespace Stmt

/-- Once for each number from `low` up to and without `high`. -/
def forRange (loc : Location) (name : String) (low high : Expr) (body : List Stmt) : Stmt :=
  .forEach loc name (.range loc low high) body

/-- A call of a function for its effect. -/
def call (loc : Location) (function : String) (args : List Expr) : Stmt :=
  .effect loc (.call loc function args)

/-- An assignment to a property of `self`. -/
def setSelfProperty (loc : Location) (property : String) (value : Expr) : Stmt :=
  .setProperty loc (.get loc selfName) property value

/-- Print a value after the number of its reason. -/
def printWithId (loc : Location) (value : Expr) : Stmt :=
  .print loc (.withId loc value)

/-- The body of a method that subclasses have to override. -/
def abstractMethod (loc : Location) : Stmt :=
  .raise loc "called abstract method"

/-- Copy the variable `field` into the property of `self` with the same name. -/
def copyField (loc : Location) (field : String) : Stmt :=
  .setSelfProperty loc field (.get loc field)

end Stmt

namespace ClassDecl

/-- The declaration of a class without members. -/
def start (name : String) : Class := ⟨name, none, [], []⟩

/-- Name the parent. -/
def inherit (decl : Class) (parent : String) : Class := { decl with parent := some parent }

/-- Name the fields; fields named before are forgotten. -/
def withFields (decl : Class) (fields : List String) : Class := { decl with fields := fields }

/-- Add a method, which takes `self` before its own parameters. -/
def method (decl : Class) (loc : Location) (name : String) (params : List String)
    (body : List Stmt) : Class :=
  { decl with methods := decl.methods ++ [⟨name, selfName :: params, body, loc⟩] }

/-- Add a constructor. Before its body runs, each parameter that is named like a field declared
so far is copied into that field. -/
def init (decl : Class) (loc : Location) (params : List String) (body : List Stmt) : Class :=
  let copies := (params.filter decl.fields.contains).map (Stmt.copyField loc)
  decl.method loc initName params (copies ++ body)

end ClassDecl

end Because
