import Because.Eval.Object

/-!
# Lists

A list is a sequence of values, each with the reason why it is in the list.
-/

namespace Because.Native

/-- The items of a list as reasons quote them. -/
def renderItems (items : List Justified) : Native String := do
  return "[" ++ (← Action.renderAll items) ++ "]"

/-- Append an item to a list. -/
def append (scope : ScopeId) (items : List Justified) (why : ReasonId) (item : Justified) :
    Native Unit := do
  let shown ← Action.render item.value
  let contents ← renderItems items
  let appended ← Action.conj s!"appended {shown} to {contents}" [why, item.why]
  Action.setHandle scope (.list (items ++ [⟨item.value, appended⟩]))

/-- Add an item at the end of a value that has to be a list. -/
def appendTo (list : Value) (why : ReasonId) (item : Justified) : Native Unit := do
  match list, ← Action.ask (·.handle? list) with
  | .object scope, some (.list items) => append scope items why item
  | _, _ => Action.fail (.wrongType "append" "List")

/-- The place of an index in a list of a length. -/
def position? (length : Nat) (index : Int) : Option Nat :=
  if 0 ≤ index ∧ index < length then some index.toNat else none

/-- The item at an index, which has to be one of the list. -/
def getItem (this : ScopeId) (items : List Justified) (why : ReasonId) (index : Justified) :
    Native Justified := do
  let (requested, _) ← expectNumber "get" index
  match requested.bind (position? items.length) with
  | none => Action.fail (.outOfRange (requested.getD (-1)) items.length)
  | some position =>
    let item := items[position]?.getD default
    let list ← Action.describeScope this
    let shown ← Action.render item.value
    let returned ← Action.conj s!"returned {list}[{position}] = {shown}"
      [item.why, why, index.why]
    return ⟨item.value, returned⟩

/-- The item at an index with its reason, or None with the reason why there is none. -/
def soughtItem (list : String) (items : List Justified) (requested : Option Int) :
    Native Justified := do
  match requested with
  | none => return .none (← Action.text "index is None")
  | some index =>
    match position? items.length index with
    | some position => return items[position]?.getD default
    | none =>
      return .none (← Action.text
        s!"index ({index}) is past the end of {list} ({items.length})")

/-- The item at an index, or None. -/
def tryGetItem (this : ScopeId) (items : List Justified) (why : ReasonId) (index : Justified) :
    Native Justified := do
  let (requested, _) ← expectNumber "tryGet" index
  let list ← Action.describeScope this
  let item ← soughtItem list items requested
  let shown ← Action.render item.value
  let returned ← Action.conj s!"returned {list}[{numberText requested}] = {shown}"
    [item.why, why, index.why]
  return ⟨item.value, returned⟩

/-- Remove the item at an index, which has to be one of the list. -/
def removeItem (this : ScopeId) (items : List Justified) (index : Justified) :
    Native Justified := do
  let (requested, _) ← expectNumber "removeAt" index
  match requested.bind (position? items.length) with
  | none => Action.fail (.outOfRange (requested.getD (-1)) items.length)
  | some position =>
    Action.setHandle this (.list (items.eraseIdx position))
    return .none (← Action.unknown)

/-- The number of items, as a new Num. -/
def countItems (inner : Inner) (this : ScopeId) (items : List Justified) (why : ReasonId) :
    Native Justified := do
  let list ← Action.describeScope this
  let counted ← Action.conj s!"these {items.length} items were added to {list}" (reasons items)
  newHiddenObject inner "Num" [⟨.int items.length, counted⟩] why

/-- The texts of items, as their own `toString` methods give them. -/
def itemTexts (inner : Inner) (why : ReasonId) : List Justified → Native (List String)
  | [] => return []
  | item :: rest => do
    let converted ← callMethod inner item "toString" [] why
    let (content, _) ← expectText "toString" converted
    let contents ← itemTexts inner why rest
    return content :: contents

/-- The text of a list, as a new String. -/
def listToString (inner : Inner) (items : List Justified) (why : ReasonId) :
    Native Justified := do
  let contents ← itemTexts inner why items
  let result := "[" ++ ", ".intercalate contents ++ "]"
  let elements ← Action.conj s!"Returned List.toString() = {result}" (why :: reasons items)
  newHiddenObject inner "String" [⟨.str result, elements⟩] why

/-- The methods of lists. -/
def invokeList (inner : Inner) (this : ScopeId) (items : List Justified) (method : String)
    (why : ReasonId) (args : List Justified) : Native Justified :=
  match method with
  | "append" => withOne method args fun item => do
    append this items why item
    return .none why
  | "clear" => withNone method args do
    Action.setHandle this (.list [])
    return .none (← Action.unknown)
  | "get" => withOne method args (getItem this items why)
  | "tryGet" => withOne method args (tryGetItem this items why)
  | "removeAt" => withOne method args (removeItem this items)
  | "getLength" => withNone method args (countItems inner this items why)
  | "toString" => withNone method args (listToString inner items why)
  | _ => Action.fail (.unknownMethod method)

end Because.Native
