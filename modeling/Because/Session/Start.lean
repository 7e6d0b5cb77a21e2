import Because.Session.Action

/-!
# The start of a session

A new session knows the built-in classes and nothing else. Each of their methods is a function
whose body hands over to the state of the object, so that built-in methods are called like all
others.
-/

namespace Because

/-- The function that answers to a method of a built-in class. -/
def Builtin.function (owner : ClassId) (method : String) (params : List String) : FunctionDef where
  name := method
  params := selfName :: params
  body := [.invokeNative .builtin method params]
  owner := some owner
  loc := .builtin

/-- Declare a method of a built-in class. -/
def declareBuiltinMethod (id : ClassId) (implScope : ScopeId) (method : String)
    (params : List String) : Eval Unit := do
  let function ← Action.define (Builtin.function id method params)
  let why ← Action.text s!"{method} is a built-in method"
  Action.declare implScope method ⟨.functionRef function, why⟩
  Action.setMethod id method function

/-- Declare a built-in class with its methods. -/
def declareBuiltin (builtin : Builtin) : Eval Unit := do
  let implScope ← Action.newScope Session.globalScope builtin.name
  let id ← Action.ask fun s => s.classes.size
  let _ ← Action.defineClass
    { name := builtin.name, parent := none, fields := [], implScope, methods := [],
      builtin := some builtin, nativeBase := some id }
  let why ← Action.text s!"{builtin.name} is a built-in class"
  Action.declare Session.globalScope builtin.name ⟨.classRef id, why⟩
  builtin.methods.forM fun method => declareBuiltinMethod id implScope method.1 method.2

namespace Session

/-- A session that does not even know the built-in classes. -/
def blank (config : Config) (console : Console) : Session where
  config := config
  graph := .empty
  scopes := { all := #[{ description := "global scope" }] }
  classes := #[]
  functions := #[]
  entered := [globalScope]
  calls := { limit := config.maxDepth }
  console := console
  nextObject := 1

/-- A new session, which knows the built-in classes. -/
def start (config : Config) (console : Console) : Session :=
  match (Builtin.all.forM declareBuiltin).run (blank config console) with
  | .done _ s => s
  | .failed _ s => s
  | .exhausted => blank config console

end Session

end Because
