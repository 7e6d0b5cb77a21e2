import Because.Eval.Object

/-!
# Conditions and derived truth values
-/

namespace Because

/-- The truth of a condition, which has to be a Bool object. -/
def expectCondition (result : Justified) (condition : Expr) : Eval Bool := do
  match ← Action.ask (·.truthOf? result.value) with
  | some (truth, _) => return truth
  | none =>
    let rendered ← Action.render result.value
    Action.fail (.because
      (.invalidOperand s!"{condition.text} is {rendered}, not a Bool") result.why)

/-- A Bool that an expression computes from one operand. -/
def derivedTruth (inner : Inner) (expr : Expr) (truth : Bool) (operand : Justified)
    (why : ReasonId) : Eval Justified := do
  let result ← newHiddenObject inner "Bool" [⟨.bool truth, operand.why⟩] why
  let rendered ← Action.render result.value
  let derived ← Action.full expr.text rendered expr.loc why [operand.why]
  return ⟨result.value, derived⟩

/-- Refuse to compare an object. -/
def refuseObject (operand : Expr) (info : Justified) : Eval Unit := do
  if info.value.isObject then
    let rendered ← Action.render info.value
    Action.fail (.because (.invalidOperand
      s!"{operand.text} is the object {rendered}; objects must be compared with 'equals'")
      info.why)
  else
    return

/-- Whether two values that are no objects are the same. -/
def evalEq (inner : Inner) (expr left right : Expr) (why : ReasonId) : Eval Justified := do
  let first ← inner.eval left why
  let second ← inner.eval right why
  refuseObject left first
  refuseObject right second
  let same := first.value == second.value
  let sign := if same then "=" else "!="
  let firstText ← Action.render first.value
  let firstWhy ← Action.full left.text firstText expr.loc why [first.why]
  let secondText ← Action.render second.value
  let secondWhy ← Action.full right.text secondText expr.loc why [second.why]
  let compared ← Action.conj (left.text ++ sign ++ right.text) [firstWhy, secondWhy]
  newHiddenObject inner "Bool" [⟨.bool same, compared⟩] why

end Because
