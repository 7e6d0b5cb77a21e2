import Because.Eval.Object

/-!
# Dictionaries

A dictionary maps keys to values. Its entries stay in the order in which their keys were first
put; putting a key again replaces the entry where it stands. An index says where that is.
-/

namespace Because.Native

/-- The value for a key, or None. -/
def getEntry (this : ScopeId) (entries : Ledger Key Entry) (why : ReasonId) (key : Justified) :
    Native Justified := do
  let shown ← Action.render key.value
  let dict ← Action.describeScope this
  match entries.get? (← Action.ask (·.key key.value)) with
  | none =>
    let missing ← Action.conj s!"{shown} not found in {dict}" [why]
    return .none missing
  | some ⟨_, found⟩ =>
    let retrieved ← Action.conj s!"{shown} retrieved from {dict}" [why, found.why]
    return ⟨found.value, retrieved⟩

/-- Put an entry into a dictionary. -/
def put (this : ScopeId) (entries : Ledger Key Entry) (why : ReasonId) (key value : Justified) :
    Native Justified := do
  let dict ← Action.describeScope this
  let shownKey ← Action.render key.value
  let shownValue ← Action.render value.value
  let stored ← Action.conj s!"called {dict}[{shownKey}] = {shownValue}" [why, key.why, value.why]
  let slot ← Action.ask (·.key key.value)
  Action.setHandle this (.dict (entries.put slot ⟨key, ⟨value.value, stored⟩⟩))
  return .none (← Action.unknown)

/-- Whether a dictionary has a key, as a new Bool. -/
def containsKey (inner : Inner) (this : ScopeId) (entries : Ledger Key Entry) (why : ReasonId)
    (key : Justified) : Native Justified := do
  let shown ← Action.render key.value
  let dict ← Action.describeScope this
  match entries.get? (← Action.ask (·.key key.value)) with
  | some ⟨_, found⟩ =>
    let answer ← Action.conj s!"{shown} in {dict}" [why, found.why]
    newHiddenObject inner "Bool" [⟨.bool true, answer⟩] why
  | none =>
    let answer ← Action.conj s!"{shown} not in {dict}" [why]
    newHiddenObject inner "Bool" [⟨.bool false, answer⟩] why

/-- The methods of dictionaries. -/
def invokeDict (inner : Inner) (this : ScopeId) (entries : Ledger Key Entry) (method : String)
    (why : ReasonId) (args : List Justified) : Native Justified :=
  match method with
  | "get" => withOne method args (getEntry this entries why)
  | "put" => withTwo method args (put this entries why)
  | "containsKey" => withOne method args (containsKey inner this entries why)
  | _ => Action.fail (.unknownMethod method)

end Because.Native
