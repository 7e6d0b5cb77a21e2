import Because.CallStack
import Because.Console
import Because.Definition
import Because.Graph.Explain
import Because.Scope

/-!
# Sessions

A session holds everything that running programs builds up: the reasons, the scopes, the classes
and functions, and the calls in progress. It outlives its programs, also the failed ones, and all
numbers are meaningful in their own session only.
-/

namespace Because

/-- The limits of a session. -/
structure Config where
  /-- How many calls may be in progress at once; no limit if absent. -/
  maxDepth : Option Nat := some 2000
  /-- How deep the explanation of a failure goes. -/
  explainDepth : Nat := 2
  deriving DecidableEq, Inhabited

/-- A session. -/
structure Session where
  config : Config
  graph : Graph
  scopes : Scopes
  classes : Array ClassDef
  functions : Array FunctionDef
  /-- The scopes that have been entered, the innermost first. -/
  entered : List ScopeId
  calls : CallStack
  console : Console
  /-- The number that the next object gets. -/
  nextObject : Nat
  deriving Inhabited

namespace Session

/-- The scope of the variables, functions and classes that every scope sees. -/
def globalScope : ScopeId := 0

/-- The scope that was entered last. -/
def currentScope (s : Session) : ScopeId := s.entered.head?.getD globalScope

/-- The class with a number; a number that no class has stands for an empty one. -/
def classAt (s : Session) (id : ClassId) : ClassDef := s.classes[id]?.getD default

/-- The function with a number; a number that no function has stands for an empty one. -/
def functionAt (s : Session) (id : FunctionId) : FunctionDef := s.functions[id]?.getD default

/-- The tag of an object. -/
def tag? (s : Session) (value : Value) : Option ObjectTag :=
  value.scope?.bind fun scope => (s.scopes.scopeAt scope).tag

/-- The class of an object. -/
def classOf? (s : Session) (value : Value) : Option ClassId :=
  (s.tag? value).map ObjectTag.classId

/-- The state of an object of a built-in class. -/
def handle? (s : Session) (value : Value) : Option Handle :=
  (s.tag? value).bind ObjectTag.handle

/-- The text that a String object holds. -/
def textOf? (s : Session) (value : Value) : Option (String × ReasonId) :=
  match s.handle? value with
  | some (.text content why) => some (content, why)
  | _ => none

/-- The truth value that a Bool object holds. -/
def truthOf? (s : Session) (value : Value) : Option (Bool × ReasonId) :=
  match s.handle? value with
  | some (.truth truth why) => some (truth, why)
  | _ => none

/-- The number that a Num object holds, if any. -/
def numberOf? (s : Session) (value : Value) : Option (Option Int × ReasonId) :=
  match s.handle? value with
  | some (.number number why) => some (number, why)
  | _ => none

/-- How a value is shown. -/
def render (s : Session) (value : Value) : String :=
  match value with
  | .object scope => ((s.handle? value).bind Handle.display?).getD (s.scopes.description scope)
  | .classRef id => (s.classAt id).text
  | .functionRef id => (s.functionAt id).name
  | plain => plain.text

/-- The texts of several values, as lists of arguments quote them. -/
def renderAll (s : Session) (values : List Justified) : String :=
  ", ".intercalate (values.map fun info => s.render info.value)

/-- The key of a dictionary that a value is. -/
def key (s : Session) (value : Value) : Key :=
  match value with
  | .object scope => ((s.handle? value).map (Handle.key scope)).getD (.object scope)
  | plain => .plain plain

/-- The value of a name in the global scope. -/
def global? (s : Session) (name : String) : Option Justified :=
  s.scopes.local? globalScope name

/-- The property of an object that the object itself binds. -/
def field? (s : Session) (object : Value) (name : String) : Option Justified :=
  object.scope?.bind fun scope => s.scopes.local? scope name

/-- The class that the global scope binds to a name. -/
def lookupClass? (s : Session) (name : String) : Option ClassId :=
  match s.global? name with
  | some ⟨.classRef id, _⟩ => some id
  | _ => none

/-- A class and all classes above it, as far as `steps` reach. -/
def lineageFrom (s : Session) : Nat → ClassId → List ClassId
  | 0, _ => []
  | steps + 1, id =>
    id :: match (s.classAt id).parent with
      | some parent => s.lineageFrom steps parent
      | none => []

/-- A class and all classes above it, the class first. Parents are older, so that there are not
more of them than the number of the class. -/
def lineage (s : Session) (id : ClassId) : List ClassId := s.lineageFrom (id + 1) id

/-- The explanation of a reason, to a depth or as a whole. -/
def explain (s : Session) (id : ReasonId) (depth : Option Nat) : Except GraphError String :=
  s.graph.explainTree id depth

end Session

end Because
