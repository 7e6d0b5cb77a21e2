import Because.Native.List

/-!
# Ranges of numbers
-/

namespace Because

/-- The number that bounds a range. -/
def expectBound (info : Justified) : Eval Int := do
  match ← Action.ask (·.numberOf? info.value) with
  | some (some number, _) => return number
  | _ =>
    let rendered ← Action.render info.value
    Action.fail (.because (.invalidOperand s!"range bound {rendered} is not a Num") info.why)

/-- Add `count` numbers from `number` upwards to a list. -/
def fillRange (inner : Inner) (list : Value) (why : ReasonId) : Nat → Int → Eval Unit
  | 0, _ => return
  | count + 1, number => do
    let unknown ← Action.unknown
    let item ← newHiddenObject inner "Num" [⟨.int number, unknown⟩] why
    (Native.appendTo list why item).toEval "List" "append" why
    fillRange inner list why count (number + 1)

/-- The list of the numbers from `low` up to and without `high`. -/
def evalRange (inner : Inner) (expr low high : Expr) (why : ReasonId) : Eval Justified := do
  let lowInfo ← inner.eval low why
  let highInfo ← inner.eval high why
  let start ← expectBound lowInfo
  let stop ← expectBound highInfo
  let list ← newHiddenObject inner "List" [] why
  fillRange inner list.value why (stop - start).toNat start
  let spanned ← Action.conj s!"{expr.text} = ({start},{stop})" [lowInfo.why, highInfo.why]
  return ⟨list.value, spanned⟩

end Because
