import Because.Eval.Inner

/-!
# Calls

A function is called with as many arguments as it has parameters. Its body runs in a new scope
below the global one, so that it sees its parameters and the global names and nothing of its
caller. The result is an object or None.
-/

namespace Because

/-- What the stack of calls keeps of a function while it runs. -/
def FunctionDef.frame (function : FunctionDef) : Frame where
  name := function.name
  location := if function.loc.isBuiltin then none else some function.loc
  owner := function.owner

/-- Bind parameters to arguments, from the left. -/
def bindParams (scope : ScopeId) : List (String × Justified) → Eval Unit
  | [] => return
  | (param, arg) :: rest => do
    Action.declare scope param arg
    bindParams scope rest

/-- What a call returns, by the way in which the body ended. -/
def callResult (function : FunctionDef) : Flow → Eval Justified
  | .normal => do
    let fell ← Action.text s!"{function.name} did not reach any return statement"
    return .none fell
  | .returned result =>
    match result.value with
    | .none => do
      let returned ← Action.conj s!"{function.name} explicitly returned None" [result.why]
      return .none returned
    | .object _ => return result
    | other => do
      let rendered ← Action.render other
      Action.fail (.because (.invalidReturn function.name rendered) result.why)

/-- Run the body of a function, once its call has begun. -/
def runFunction (inner : Inner) (function : FunctionDef) (args : List Justified)
    (why : ReasonId) : Eval Justified := do
  let scope ← Action.newScope Session.globalScope s!"function {function.name}"
  bindParams scope (function.params.zip args)
  let called ← Action.conjAt s!"called {function.name}" [why] function.loc
  let flow ← Action.inScope scope (runStatements inner called function.body)
  callResult function flow

/-- Refuse a call that gives the wrong number of arguments. -/
def refuseArgs (function : FunctionDef) (args : List Justified) (why : ReasonId) :
    Eval Justified := do
  let given ← Action.renderAll args
  let required := ", ".intercalate function.params
  let gave := s!"Gave {args.length} arguments : [{given}]"
  let needs := s!"required {function.params.length} arguments: [{required}]"
  let failure ← Action.conj s!"{gave}; {needs}" (why :: reasons args)
  Action.fail (.because
    (.arityMismatch function.name function.params.length args.length) failure)

/-- Call a function. The number of arguments is looked at before the room for another call. -/
def callFunction (inner : Inner) (id : FunctionId) (args : List Justified) (why : ReasonId) :
    Eval Justified := do
  let function ← Action.ask (·.functionAt id)
  if args.length = function.params.length then
    Action.inCall function.frame why (runFunction inner function args why)
  else
    refuseArgs function args why

/-- The function that a name means in the scopes that have been entered. -/
def lookupFunction (name : String) (why : ReasonId) : Eval FunctionId := do
  let scope ← Action.currentScope
  match ← Action.ask fun s => s.scopes.tryGet scope name with
  | some ⟨.functionRef id, _⟩ => return id
  | _ =>
    let place ← Action.describeScope scope
    Action.fail (.because (.undefinedFunction name place) why)

/-- The function that answers to a method in the table of a class. -/
def findMethod (id : ClassId) (method : String) (why : ReasonId) : Eval FunctionId := do
  let classDef ← Action.ask (·.classAt id)
  match classDef.methods.get? method with
  | some function => return function
  | none =>
    let place ← Action.describeScope classDef.implScope
    Action.fail (.because (.undefinedFunction method place) why)

/-- Call a method of an object, as the class of the object has it. -/
def callMethod (inner : Inner) (receiver : Justified) (method : String) (args : List Justified)
    (why : ReasonId) : Eval Justified := do
  match ← Action.ask (·.classOf? receiver.value) with
  | none =>
    let rendered ← Action.render receiver.value
    Action.fail (.because
      (.invalidOperand s!"cannot call {method} on {rendered}: not an object") receiver.why)
  | some id =>
    let function ← findMethod id method why
    let unknown ← Action.unknown
    inner.call function (⟨receiver.value, unknown⟩ :: args) why

end Because
