import Because.Eval.Call

/-!
# Properties and methods

Reading a property of an object, and calling a method of it. A method is found in the table of
the class that serves the call, and the reason why that table serves it is part of the reason of
the call.
-/

namespace Because

/-- What reasons call a property of an object that is shown as `owner`. -/
def propertyText (owner property : String) : String :=
  s!"{Node.variableText owner}.{property}"

/-- Read a property of an object. -/
def evalProperty (inner : Inner) (owner : Expr) (property : String) (loc : Location)
    (why : ReasonId) : Eval Justified := do
  let info ← inner.eval owner why
  let rendered ← Action.render info.value
  match info.value with
  | .object object =>
    match ← Action.ask fun s => s.scopes.get object property with
    | .error fault => Action.fail (.because fault why)
    | .ok stored =>
      let value ← Action.render stored.value
      let read ← Action.full (propertyText rendered property) value loc why
        [info.why, stored.why]
      return ⟨stored.value, read⟩
  | .none =>
    Action.fail (.because (.invalidOperand "object to dereference is None") info.why)
  | _ =>
    Action.fail (.because
      (.invalidOperand s!"cannot read {property} of {rendered}: not an object") info.why)

/-- The class that serves a call on an object: that of the object. -/
def dispatchObject (target : Justified) (method : String) : Eval (ClassId × ReasonId) := do
  let rendered ← Action.render target.value
  match ← Action.ask (·.classOf? target.value) with
  | some id =>
    let classText ← Action.ask fun s => (s.classAt id).text
    let why ← Action.text s!"({rendered}) instanceof {classText}"
    return (id, why)
  | none =>
    let message :=
      if target.value.isNone then s!"cannot call {method} on None"
      else s!"cannot call {method} on {rendered}: not an object"
    Action.fail (.because (.invalidOperand message) target.why)

/-- The class that serves a call of `super`: the parent of the class that defines the running
method. -/
def dispatchSuper (method : String) (why : ReasonId) : Eval (ClassId × ReasonId) := do
  match ← Action.ask fun s => s.calls.owner? with
  | none =>
    let place ← Action.describeScope Session.globalScope
    Action.fail (.because (.undefinedFunction method s!"the parent of {place}") why)
  | some owner =>
    let ownerDef ← Action.ask (·.classAt owner)
    match ownerDef.parent with
    | none =>
      Action.fail (.because (.undefinedFunction method s!"the parent of {ownerDef.name}") why)
    | some parent =>
      let parentDef ← Action.ask (·.classAt parent)
      let reason ← Action.text s!"parent scope of {ownerDef.name} is {parentDef.name}"
      return (parent, reason)

/-- Call a method of `target` in the table of a class, which serves the call for the reason that
comes with it. -/
def callIn (inner : Inner) (expr : Expr) (target : Justified) (served : ClassId × ReasonId)
    (method : String) (args : List Expr) (why : ReasonId) : Eval Justified := do
  let (id, servedWhy) := served
  let name ← Action.ask fun s => (s.classAt id).name
  let chosen ← Action.equal selfName name servedWhy
  let infos ← evalArgs inner why args
  let context ← Action.conjAt s!"Evaluated {expr.text}"
    (why :: target.why :: chosen :: reasons infos) expr.loc
  let function ← findMethod id method context
  let result ← inner.call function (target :: infos) context
  let rendered ← Action.render result.value
  let called ← Action.full expr.text rendered expr.loc why [result.why]
  return ⟨result.value, called⟩

/-- Call a method of an object. -/
def callOnObject (inner : Inner) (expr : Expr) (target : Justified) (method : String)
    (args : List Expr) (why : ReasonId) : Eval Justified := do
  let served ← dispatchObject target method
  callIn inner expr target served method args why

/-- Call a method of `self`, in the table of the parent of the defining class. -/
def callOnSuper (inner : Inner) (expr : Expr) (target : Justified) (method : String)
    (args : List Expr) (why : ReasonId) : Eval Justified := do
  let served ← dispatchSuper method why
  callIn inner expr target served method args why

end Because
