import Because.Eval.Call

/-!
# Sums

Operands are joined from the left, and the class of what has been joined so far says what joining
means. A sum holds because of its operands alone.
-/

namespace Because

/-- Insist that every operand is an object. -/
def expectOperands (expr : Expr) : List Justified → Eval Unit
  | [] => return
  | info :: rest => do
    if info.value.isObject then
      expectOperands expr rest
    else
      let rendered ← Action.render info.value
      Action.fail (.because (.invalidOperand
        s!"invalid operand {rendered} for {expr.text} (not an object)") info.why)

/-- Join further operands to what has been joined so far. -/
def joinOperands (inner : Inner) (why : ReasonId) (sum : Justified) :
    List Justified → Eval Justified
  | [] => return sum
  | other :: rest => do
    let next ← callMethod inner sum "plus" [other] why
    if next.value.isObject then
      joinOperands inner why next rest
    else
      let rendered ← Action.render next.value
      Action.fail (.because (.invalidOperand
        s!"plus returned {rendered} (not an object)") next.why)

/-- The sum of operands, of which there has to be one. -/
def evalPlus (inner : Inner) (expr : Expr) (operands : List Expr) (why : ReasonId) :
    Eval Justified := do
  let infos ← evalArgs inner why operands
  expectOperands expr infos
  match infos with
  | [] =>
    Action.fail (.because (.invalidOperand s!"{expr.text} has no operands") why)
  | first :: rest =>
    let sum ← joinOperands inner why first rest
    let rendered ← Action.render sum.value
    let total ← Action.full expr.text rendered expr.loc why (reasons infos)
    return ⟨sum.value, total⟩

end Because
