import Because.Location

/-!
# Programs

A program is a list of statements. Every expression, statement and declaration carries the
location that its reasons quote.
-/

namespace Because

/-- A value written into a program. Only the constructors of built-in classes take it. -/
inductive Literal where
  | none
  | bool (value : Bool)
  | int (value : Int)
  | str (text : String)
  deriving DecidableEq, Inhabited

/-- What produces a value. -/
inductive Expr where
  | const (loc : Location) (literal : Literal)
  /-- A variable of the enclosing scopes. -/
  | get (loc : Location) (name : String)
  /-- A property of an object. -/
  | property (loc : Location) (owner : Expr) (name : String)
  /-- A new object. -/
  | new (loc : Location) (className : String) (args : List Expr)
  /-- Whether two values that are no objects are the same. -/
  | eq (loc : Location) (left right : Expr)
  | not (loc : Location) (inner : Expr)
  | isNone (loc : Location) (inner : Expr)
  /-- The operands joined from the left by their `plus` methods. -/
  | plus (loc : Location) (operands : List Expr)
  /-- The same, written for texts. -/
  | concat (loc : Location) (operands : List Expr)
  /-- A call of a function that belongs to no class. -/
  | call (loc : Location) (function : String) (args : List Expr)
  /-- A method of any object. -/
  | methodCall (loc : Location) (object : Expr) (method : String) (args : List Expr)
  /-- A method of `self`, looked up in the class of `self`. -/
  | selfCall (loc : Location) (method : String) (args : List Expr)
  /-- A method of `self`, looked up in the parent of the class that defines the caller. -/
  | superCall (loc : Location) (method : String) (args : List Expr)
  /-- The text of a value after the number of its reason. -/
  | withId (loc : Location) (inner : Expr)
  /-- The list of the numbers from `low` up to and without `high`. -/
  | range (loc : Location) (low high : Expr)
  /-- A line of input. -/
  | ask (loc : Location)
  /-- A line of input, asked for with a prompt. -/
  | askWith (loc : Location) (prompt : Expr)
  /-- The number that a text denotes. -/
  | int (loc : Location) (inner : Expr)
  deriving Inhabited

/-- The location of an expression. -/
def Expr.loc : Expr → Location
  | .const loc _ | .get loc _ | .property loc _ _ | .new loc _ _ | .eq loc _ _ | .not loc _
  | .isNone loc _ | .plus loc _ | .concat loc _ | .call loc _ _ | .methodCall loc _ _ _
  | .selfCall loc _ _ | .superCall loc _ _ | .withId loc _ | .range loc _ _ | .ask loc
  | .askWith loc _ | .int loc _ => loc

/-- The declaration of a function or, with `self` as its first parameter, of a method. -/
structure FunctionDecl (Stmt : Type) where
  name : String
  params : List String
  body : List Stmt
  loc : Location
  deriving Inhabited

/-- The declaration of a class. -/
structure ClassDecl (Stmt : Type) where
  name : String
  parent : Option String
  fields : List String
  methods : List (FunctionDecl Stmt)
  deriving Inhabited

/-- What has an effect. -/
inductive Stmt where
  | ifElse (loc : Location) (condition : Expr) (thenBranch elseBranch : List Stmt)
  /-- Once for each item of a list or key of a dictionary. -/
  | forEach (loc : Location) (name : String) (values : Expr) (body : List Stmt)
  | whileDo (loc : Location) (condition : Expr) (body : List Stmt)
  /-- A new variable of the current scope, and an assignment to it. -/
  | declare (loc : Location) (name : String) (value : Expr)
  /-- Assign to the nearest variable of the name. -/
  | assign (loc : Location) (name : String) (value : Expr)
  /-- End the function with a value. -/
  | ret (loc : Location) (value : Expr)
  | declareFunction (loc : Location) (decl : FunctionDecl Stmt)
  | declareClass (loc : Location) (decl : ClassDecl Stmt)
  /-- Evaluate and forget the value. -/
  | effect (loc : Location) (value : Expr)
  /-- Assign to a property of an object. -/
  | setProperty (loc : Location) (owner : Expr) (name : String) (value : Expr)
  | print (loc : Location) (value : Expr)
  | fullExplain (loc : Location) (value : Expr)
  | shortExplain (loc : Location) (value depth : Expr)
  /-- Fail with a message. -/
  | raise (loc : Location) (message : String)
  /-- Hand the method over to the built-in state of `self`. -/
  | invokeNative (loc : Location) (method : String) (params : List String)
  deriving Inhabited

/-- The location of a statement. -/
def Stmt.loc : Stmt → Location
  | .ifElse loc _ _ _ | .forEach loc _ _ _ | .whileDo loc _ _ | .declare loc _ _
  | .assign loc _ _ | .ret loc _ | .declareFunction loc _ | .declareClass loc _ | .effect loc _
  | .setProperty loc _ _ _ | .print loc _ | .fullExplain loc _ | .shortExplain loc _ _
  | .raise loc _ | .invokeNative loc _ _ => loc

/-- A function as programs declare it. -/
abbrev Function := FunctionDecl Stmt

/-- A class as programs declare it. -/
abbrev Class := ClassDecl Stmt

/-- The statements of a program, in order. -/
abbrev Program := List Stmt

/-- The parameter that holds the object whose method runs. -/
def selfName : String := "self"

/-- The method that constructs an object. -/
def initName : String := "__init__"

end Because
