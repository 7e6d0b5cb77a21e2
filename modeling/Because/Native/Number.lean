import Because.Eval.Object
import Because.Text.Numeral

/-!
# Numbers

A Num holds an integer of 64 bits, or none where a text denoted no number, and the reason why it
is what it is.
-/

namespace Because.Native

/-- Whether a number equals an argument, as a new Bool. -/
def compareNumbers (inner : Inner) (number : Option Int) (numberWhy why : ReasonId)
    (other : Justified) : Native Justified := do
  let (theirs, theirWhy) ← expectNumber "equals" other
  let result ← Action.conj s!"{numberText number} == {numberText theirs}" [numberWhy, theirWhy]
  newHiddenObject inner "Bool" [⟨.bool (number == theirs), result⟩] why

/-- The sum of two numbers, or none if one is missing. A sum that needs more than 64 bits is an
overflow. -/
def sum? (first second : Option Int) : Except NativeFault (Option Int) :=
  match first, second with
  | some a, some b =>
    if Text.isInt64 (a + b) then .ok (some (a + b)) else .error (.overflow "plus")
  | _, _ => .ok none

/-- The value that makes a Num hold a number, or none. -/
def payload : Option Int → Value
  | some value => .int value
  | none => .none

/-- The sum of a number and an argument, as a new Num. -/
def addNumbers (inner : Inner) (number : Option Int) (numberWhy why : ReasonId)
    (other : Justified) : Native Justified := do
  let (theirs, theirWhy) ← expectNumber "plus" other
  let sum ← Action.ofExcept (sum? number theirs)
  let sumWhy ← Action.conj s!"sum = {numberText sum}" [why, numberWhy, theirWhy]
  newHiddenObject inner "Num" [⟨payload sum, sumWhy⟩] why

/-- The methods of numbers. -/
def invokeNumber (inner : Inner) (number : Option Int) (numberWhy : ReasonId) (method : String)
    (why : ReasonId) (args : List Justified) : Native Justified :=
  match method with
  | "toString" => withNone method args do
    newHiddenObject inner "String" [⟨.str (numberText number), numberWhy⟩] why
  | "nonEmpty" => withNone method args do
    newHiddenObject inner "Bool" [⟨.bool number.isSome, numberWhy⟩] why
  | "equals" => withOne method args (compareNumbers inner number numberWhy why)
  | "plus" => withOne method args (addNumbers inner number numberWhy why)
  | _ => Action.fail (.unknownMethod method)

end Because.Native
