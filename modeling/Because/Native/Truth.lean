import Because.Eval.Object

/-!
# Truth values

A Bool holds a truth value and the reason why it is what it is.
-/

namespace Because.Native

/-- Whether a truth value equals an argument, as a new Bool. -/
def compareTruths (inner : Inner) (truth : Bool) (truthWhy why : ReasonId) (other : Justified) :
    Native Justified := do
  let (theirs, theirWhy) ← expectTruth "equals" other
  let equal := truth == theirs
  let result ← Action.conj (truthText truth ++ comparison equal ++ truthText theirs)
    [truthWhy, theirWhy]
  newHiddenObject inner "Bool" [⟨.bool equal, result⟩] why

/-- The methods of truth values. -/
def invokeTruth (inner : Inner) (truth : Bool) (truthWhy : ReasonId) (method : String)
    (why : ReasonId) (args : List Justified) : Native Justified :=
  match method with
  | "toString" => withNone method args do
    newObject inner "String" [⟨.str (truthText truth), truthWhy⟩] why
  | "equals" => withOne method args (compareTruths inner truth truthWhy why)
  | _ => Action.fail (.unknownMethod method)

end Because.Native
