import Because.Eval.Input
import Because.Eval.Loop
import Because.Eval.Member
import Because.Native.Invoke

/-!
# Statements

One step of the execution of a statement, given how to run what lies inside it.
-/

namespace Because

/-- Assign the value of an expression to the nearest variable of a name. -/
def execAssign (inner : Inner) (name : String) (value : Expr) (loc : Location)
    (why : ReasonId) : Eval Unit := do
  let result ← inner.eval value why
  let rendered ← Action.render result.value
  let assigned ← Action.full name rendered loc why [result.why]
  let current ← Action.currentScope
  (Action.assign current name ⟨result.value, assigned⟩).mapError (·.withReason why)

/-- Make a variable of the current scope and assign to it. -/
def execDeclare (inner : Inner) (name : String) (value : Expr) (loc : Location)
    (why : ReasonId) : Eval Unit := do
  let default ← Action.text "the default variable value is None"
  let current ← Action.currentScope
  (Action.declare current name (.none default)).mapError (·.withReason why)
  execAssign inner name value loc why

/-- The object that owns a property to be changed. The property has to be one of its own: what
the scopes above it bind are no members of it. -/
def expectOwner (owner : Justified) (property : String) : Eval ScopeId := do
  match owner.value with
  | .object object =>
    if ← Action.ask fun s => s.scopes.binds object property then
      return object
    else
      let place ← Action.describeScope object
      Action.fail (.because (.undefinedVariable property place) owner.why)
  | other =>
    let rendered ← Action.render other
    Action.fail (.because
      (.invalidOperand s!"cannot set {property} on {rendered}: not an object") owner.why)

/-- Set a property of an object, which has to bind it itself. -/
def execSetProperty (inner : Inner) (owner : Expr) (property : String) (value : Expr)
    (loc : Location) (why : ReasonId) : Eval Unit := do
  let ownerInfo ← inner.eval owner why
  let object ← expectOwner ownerInfo property
  let result ← inner.eval value why
  let shown ← Action.render ownerInfo.value
  let rendered ← Action.render result.value
  let assigned ← Action.full (propertyText shown property) rendered loc why [result.why]
  (Action.assign object property ⟨result.value, assigned⟩).mapError (·.withReason why)

/-- What is printed of a value: the text of a String, what `toString` makes of any other object,
and the text of all else. -/
def printableText (inner : Inner) (result : Justified) (why : ReasonId) : Eval String := do
  match ← Action.ask (·.textOf? result.value) with
  | some (content, _) => return content
  | none =>
    match ← Action.ask (·.classOf? result.value) with
    | none => Action.render result.value
    | some _ =>
      let converted ← callMethod inner result "toString" [] why
      Action.ask (·.shownText converted.value)

/-- Print the explanation of a reason, to a depth or as a whole. -/
def printExplanation (id : ReasonId) (depth : Option Nat) : Eval Unit := do
  match ← Action.ask fun s => s.explain id depth with
  | .ok explanation => Action.printLine explanation
  | .error cause => Action.fail (.of (.graph cause))

/-- The depth that a Num object gives. -/
def expectDepth (info : Justified) : Eval Nat := do
  let refuse : Eval Nat := do
    let rendered ← Action.render info.value
    Action.fail (.because (.invalidOperand
      s!"explanation depth {rendered} is not a non-negative Num") info.why)
  match ← Action.ask (·.numberOf? info.value) with
  | some (some number, _) => if 0 ≤ number then return number.toNat else refuse
  | _ => refuse

/-- Return a value from the body of a function. -/
def execReturn (inner : Inner) (value : Expr) (loc : Location) (why : ReasonId) :
    Eval Flow := do
  let result ← inner.eval value why
  let rendered ← Action.render result.value
  let returned ← Action.full "return" rendered loc why [result.why]
  return .returned ⟨result.value, returned⟩

/-- Run the branch that a condition chooses, because of the condition. -/
def execIf (inner : Inner) (condition : Expr) (thenBranch elseBranch : List Stmt)
    (why : ReasonId) : Eval Flow := do
  let result ← inner.eval condition why
  if ← expectCondition result condition then
    runStatements inner result.why thenBranch
  else
    runStatements inner result.why elseBranch

/-- Declare a function in the current scope. -/
def execFunction (decl : Function) (why : ReasonId) : Eval Unit := do
  let function ← defineFunction decl none
  let current ← Action.currentScope
  Action.declare current decl.name ⟨.functionRef function, why⟩

/-- Print a value as text. -/
def execPrint (inner : Inner) (value : Expr) (why : ReasonId) : Eval Unit := do
  let result ← inner.eval value why
  Action.printLine (← printableText inner result why)

/-- Execute a statement for a reason. -/
def execStmt (inner : Inner) (stmt : Stmt) (why : ReasonId) : Eval Flow :=
  match stmt with
  | .ifElse _ condition thenBranch elseBranch =>
    execIf inner condition thenBranch elseBranch why
  | .forEach _ name values body => execForEach inner name values body why
  | .whileDo loc condition body => execWhile inner condition body loc why inner.passes
  | .declare loc name value => do
    execDeclare inner name value loc why
    return .normal
  | .assign loc name value => do
    execAssign inner name value loc why
    return .normal
  | .ret loc value => execReturn inner value loc why
  | .declareFunction _ decl => do
    execFunction decl why
    return .normal
  | .declareClass _ decl => do
    declareClass decl why
    return .normal
  | .effect _ value => do
    let _ ← inner.eval value why
    return .normal
  | .setProperty loc owner property value => do
    execSetProperty inner owner property value loc why
    return .normal
  | .print _ value => do
    execPrint inner value why
    return .normal
  | .fullExplain _ value => do
    let result ← inner.eval value why
    printExplanation result.why none
    return .normal
  | .shortExplain _ value depth => do
    let result ← inner.eval value why
    let depthInfo ← inner.eval depth why
    let depth ← expectDepth depthInfo
    printExplanation result.why (some depth)
    return .normal
  | .raise _ message => Action.fail (.because (.raised message) why)
  | .invokeNative loc method params => invokeNative inner method params loc why

end Because
