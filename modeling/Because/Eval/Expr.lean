import Because.Eval.Condition
import Because.Eval.Input
import Because.Eval.Member
import Because.Eval.Range
import Because.Eval.Sum

/-!
# Expressions

One step of the evaluation of an expression, given how to run what lies inside it.
-/

namespace Because

/-- Make an object from arguments that are evaluated first. -/
def evalNew (inner : Inner) (className : String) (args : List Expr) (why : ReasonId) :
    Eval Justified := do
  let infos ← evalArgs inner why args
  let given ← Action.renderAll infos
  let context ← Action.conj s!"new {className}({given})" (why :: reasons infos)
  newObject inner className infos context

/-- Call the function that a name means. -/
def evalCall (inner : Inner) (name : String) (args : List Expr) (why : ReasonId) :
    Eval Justified := do
  let infos ← evalArgs inner why args
  let given ← Action.renderAll infos
  let context ← Action.conj s!"Call {name}({given})" [why]
  let function ← lookupFunction name context
  inner.call function infos context

/-- The text of a value after the number of its reason. -/
def evalWithId (inner : Inner) (expr : Expr) (why : ReasonId) : Eval Justified := do
  let result ← inner.eval expr why
  match ← Action.ask fun s => s.graph.get result.why with
  | .error cause => Action.fail (.of (.graph cause))
  | .ok node =>
    let rendered ← Action.render result.value
    newHiddenObject inner "String" [⟨.str (node.mark ++ rendered), result.why⟩] why

/-- The rules for expressions. -/
def evalExpr (inner : Inner) (expr : Expr) (why : ReasonId) : Eval Justified :=
  match expr with
  | .const _ literal => do
    let written ← Action.text s!"'{literal.text}' is in my program"
    return ⟨.ofLiteral literal, written⟩
  | .get loc name => lookupVariable name loc why
  | .property loc owner property => evalProperty inner owner property loc why
  | .new _ className args => evalNew inner className args why
  | .eq _ left right => evalEq inner expr left right why
  | .not _ operand => do
    let info ← inner.eval operand why
    let truth ← expectCondition info operand
    derivedTruth inner expr (!truth) info why
  | .isNone _ operand => do
    let info ← inner.eval operand why
    derivedTruth inner expr info.value.isNone info why
  | .plus _ operands => evalPlus inner expr operands why
  | .concat _ operands => evalPlus inner expr operands why
  | .call _ name args => evalCall inner name args why
  | .methodCall _ object method args => do
    let target ← inner.eval object why
    callOnObject inner expr target method args why
  | .selfCall loc method args => do
    let target ← lookupVariable selfName loc why
    callOnObject inner expr target method args why
  | .superCall loc method args => do
    let target ← lookupVariable selfName loc why
    callOnSuper inner expr target method args why
  | .withId _ operand => evalWithId inner operand why
  | .range _ low high => evalRange inner expr low high why
  | .ask _ => askFor inner "" why
  | .askWith _ prompt => do
    let info ← inner.eval prompt why
    askFor inner (← Action.ask (·.shownText info.value)) why
  | .int _ operand => evalInt inner operand why

end Because
