import Because.Native.List
import Because.Text.Split

/-!
# Texts

A String holds a text that never changes, and the reason why it is what it is.
-/

namespace Because.Native

/-- Make a String for each part and add it to a list. -/
def appendParts (inner : Inner) (list : Value) (why : ReasonId) : List String → Native Unit
  | [] => return
  | part :: rest => do
    let item ← newHiddenObject inner "String" [⟨.str part, why⟩] why
    appendTo list why item
    appendParts inner list why rest

/-- The list of the parts of a text between the occurrences of another. -/
def splitText (inner : Inner) (content : String) (contentWhy why : ReasonId)
    (separator : Justified) : Native Justified := do
  let (sep, sepWhy) ← expectText "split" separator
  let parts := Text.split sep content
  let list ← newHiddenObject inner "List" [] why
  let quoted := ", ".intercalate (parts.map fun part => s!"'{part}'")
  let split ← Action.conj s!"{content}.split({sep}) = [{quoted}]" [why, contentWhy, sepWhy]
  appendParts inner list.value split parts
  return ⟨list.value, split⟩

/-- A text with an argument behind it, as a new String. -/
def joinTexts (inner : Inner) (content : String) (contentWhy why : ReasonId)
    (other : Justified) : Native Justified := do
  let (theirs, theirWhy) ← expectText "plus" other
  let joined := content ++ theirs
  let sum ← Action.conj s!"concatenation = {joined}" [why, contentWhy, theirWhy]
  newHiddenObject inner "String" [⟨.str joined, sum⟩] why

/-- Whether a text equals an argument, as a new Bool. -/
def compareTexts (inner : Inner) (content : String) (contentWhy why : ReasonId)
    (other : Justified) : Native Justified := do
  let (theirs, theirWhy) ← expectText "equals" other
  let equal := content == theirs
  let result ← Action.conj s!"{content}{comparison equal}{theirs}" [contentWhy, theirWhy]
  newObject inner "Bool" [⟨.bool equal, result⟩] why

/-- A text without the start that it may have. -/
def exceptStart (inner : Inner) (content : String) (why : ReasonId) (start : Justified) :
    Native Justified := do
  let (start, _) ← expectText "exceptPrefix" start
  let (rest, reason) := match Text.dropStart? start content with
    | some rest => (rest, s!"'{content}' starts with '{start}'")
    | none => (content, s!"'{content}' does not start with '{start}'")
  let reason ← Action.text reason
  newHiddenObject inner "String" [⟨.str rest, reason⟩] why

/-- The methods of texts. -/
def invokeText (inner : Inner) (this : ScopeId) (content : String) (contentWhy : ReasonId)
    (method : String) (why : ReasonId) (args : List Justified) : Native Justified :=
  match method with
  | "toString" => withNone method args do return ⟨.object this, why⟩
  | "split" => withOne method args (splitText inner content contentWhy why)
  | "plus" => withOne method args (joinTexts inner content contentWhy why)
  | "equals" => withOne method args (compareTexts inner content contentWhy why)
  | "exceptPrefix" => withOne method args (exceptStart inner content why)
  | _ => Action.fail (.unknownMethod method)

end Because.Native
