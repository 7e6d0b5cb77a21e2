import Because.Session.Action

/-!
# Running what lies inside

An expression is evaluated by evaluating the expressions inside it, and likewise for statements
and function bodies. The rules for one node are written against a record of how to run what lies
inside, and know nothing of how deep that goes.
-/

namespace Because

/-- How a list of statements ends. -/
inductive Flow where
  | normal
  /-- A `return` ran, and the function ends with this value. -/
  | returned (result : Justified)
  deriving DecidableEq, Inhabited

/-- How to run what lies inside a node. Every run is for a reason. -/
structure Inner where
  eval : Expr → ReasonId → Eval Justified
  exec : Stmt → ReasonId → Eval Flow
  call : FunctionId → List Justified → ReasonId → Eval Justified
  /-- How many passes a loop may make. -/
  passes : Nat

/-- Evaluate arguments from left to right. -/
def evalArgs (inner : Inner) (why : ReasonId) : List Expr → Eval (List Justified)
  | [] => return []
  | arg :: rest => do
    let info ← inner.eval arg why
    let infos ← evalArgs inner why rest
    return info :: infos

/-- Run statements in order, up to a `return`. -/
def runStatements (inner : Inner) (why : ReasonId) : List Stmt → Eval Flow
  | [] => return .normal
  | stmt :: rest => do
    match ← inner.exec stmt why with
    | .normal => runStatements inner why rest
    | .returned result => return .returned result

/-- The reasons of arguments. -/
def reasons (args : List Justified) : List ReasonId := args.map Justified.why

/-- Read a variable of the scopes that have been entered; the reading itself is a reason. -/
def lookupVariable (name : String) (loc : Location) (why : ReasonId) : Eval Justified := do
  let scope ← Action.currentScope
  match ← Action.ask fun s => s.scopes.get scope name with
  | .ok stored =>
    let rendered ← Action.render stored.value
    let read ← Action.full name rendered loc why [stored.why]
    return ⟨stored.value, read⟩
  | .error fault =>
    let failed ← Action.conj fault.message [why]
    Action.fail (.because fault failed)

end Because
