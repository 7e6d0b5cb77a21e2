import Because.Eval.Condition

/-!
# Loops

A loop over a collection runs its body once for each item that the collection had when the loop
began. Every pass of a loop has a scope of its own.
-/

namespace Because

/-- Run the body of a loop for each item, up to a `return`. -/
def forItems (inner : Inner) (loopScope : ScopeId) (name : String) (loc : Location)
    (body : List Stmt) (collectionWhy why : ReasonId) : List Justified → Eval Flow
  | [] => return .normal
  | item :: rest => do
    let rendered ← Action.render item.value
    let pass ← Action.full s!"loop iterator {name}" rendered loc why [collectionWhy, item.why]
    Action.assign loopScope name ⟨item.value, pass⟩
    let scope ← Action.newScope loopScope s!"iteration where {name} = {rendered}"
    match ← Action.inScope scope (runStatements inner pass body) with
    | .normal => forItems inner loopScope name loc body collectionWhy why rest
    | .returned result => return .returned result

/-- The items that a loop over a value visits. -/
def expectItems (collection : Justified) : Eval (List Justified) := do
  match (← Action.ask (·.handle? collection.value)).bind Handle.items? with
  | some items => return items
  | none =>
    let rendered ← Action.render collection.value
    Action.fail (.because
      (.invalidOperand s!"cannot iterate over {rendered}") collection.why)

/-- Loop over a collection in a scope that has been entered for this. -/
def forCollection (inner : Inner) (loopScope : ScopeId) (name : String) (values : Expr)
    (body : List Stmt) (why : ReasonId) : Eval Flow := do
  let collection ← inner.eval values why
  let initialized ← Action.text "Initialized by ForEach loop"
  Action.declare loopScope name (.none initialized)
  let items ← expectItems collection
  forItems inner loopScope name values.loc body collection.why why items

/-- A loop over a collection, in a scope of its own. -/
def execForEach (inner : Inner) (name : String) (values : Expr) (body : List Stmt)
    (why : ReasonId) : Eval Flow := do
  let current ← Action.currentScope
  let loopScope ← Action.newScope current s!"for loop of {name}"
  Action.inScope loopScope (forCollection inner loopScope name values body why)

/-- One pass of a loop with a condition: nothing if the condition is false, and otherwise how the
body ended. -/
def whilePass (inner : Inner) (condition : Expr) (body : List Stmt) (loc : Location)
    (why : ReasonId) : Eval (Option Flow) := do
  let result ← inner.eval condition why
  if ← expectCondition result condition then
    let rendered ← Action.render result.value
    let pass ← Action.full condition.text rendered loc why [result.why]
    let flow ← runStatements inner pass body
    return some flow
  else
    return none

/-- Run a loop with a condition for at most the given number of passes. -/
def execWhile (inner : Inner) (condition : Expr) (body : List Stmt) (loc : Location)
    (why : ReasonId) : Nat → Eval Flow
  | 0 => Action.giveUp
  | passes + 1 => do
    let current ← Action.currentScope
    let scope ← Action.newScope current s!"while ({condition.text})"
    match ← Action.inScope scope (whilePass inner condition body loc why) with
    | none => return .normal
    | some .normal => execWhile inner condition body loc why passes
    | some (.returned result) => return .returned result

end Because
