import Because.Session.Basic

/-!
# Actions

An action works on a session. It ends with a result, with an error, or not within the steps that
it was given; the first two leave a session behind, so that a session survives every error.
-/

namespace Because

/-- How an action ends. -/
inductive Outcome (ε α : Type) where
  | done (result : α) (session : Session)
  | failed (error : ε) (session : Session)
  /-- The action needs more steps than it was given. -/
  | exhausted
  deriving Inhabited

/-- Work on a session, with errors of type `ε` and a result of type `α`. -/
def Action (ε α : Type) : Type := Session → Outcome ε α

/-- Work that a running program asks for. -/
abbrev Eval := Action Failure

namespace Action

variable {ε δ α β : Type}

@[inline] def run (action : Action ε α) (s : Session) : Outcome ε α := action s

@[always_inline, inline] instance : Monad (Action ε) where
  pure result s := .done result s
  bind first next s :=
    match first s with
    | .done result s' => next result s'
    | .failed error s' => .failed error s'
    | .exhausted => .exhausted

@[inline] def fail (error : ε) : Action ε α := fun s => .failed error s

@[inline] def giveUp : Action ε α := fun _ => .exhausted

/-- What the session says. -/
@[inline] def ask (f : Session → α) : Action ε α := fun s => .done (f s) s

@[inline] def change (f : Session → Session) : Action ε Unit := fun s => .done () (f s)

@[inline] def mapError (f : ε → δ) (action : Action ε α) : Action δ α := fun s =>
  match action s with
  | .done result s' => .done result s'
  | .failed error s' => .failed (f error) s'
  | .exhausted => .exhausted

/-- A result, or an error. -/
@[inline] def ofExcept (result : Except ε α) : Action ε α := fun s =>
  match result with
  | .ok result => .done result s
  | .error error => .failed error s

/-- Run an action in a scope, which is left again however the action ends. -/
@[inline] def inScope (scope : ScopeId) (action : Action ε α) : Action ε α := fun s =>
  match action { s with entered := scope :: s.entered } with
  | .done result s' => .done result { s' with entered := s'.entered.tail }
  | .failed error s' => .failed error { s' with entered := s'.entered.tail }
  | .exhausted => .exhausted

/-- Run an action as a call, which is over however the action ends. A failure leaves with the
trace of the calls that were in progress. A call for which there is no room fails for the reason
that asked for it. -/
@[inline] def inCall (frame : Frame) (why : ReasonId) (action : Eval α) : Eval α := fun s =>
  match s.calls.push frame with
  | .error fault => .failed (.because fault why) s
  | .ok calls =>
    match action { s with calls } with
    | .done result s' => .done result { s' with calls := s'.calls.pop }
    | .failed failure s' => .failed (s'.calls.attach failure) { s' with calls := s'.calls.pop }
    | .exhausted => .exhausted

/-! ## Reasons -/

def text (message : String) : Action ε ReasonId := fun s =>
  match s.graph.text message with
  | (id, graph) => .done id { s with graph }

def unknown : Action ε ReasonId := fun s =>
  match s.graph.unknown with
  | (id, graph) => .done id { s with graph }

/-- Record a reason; its supporters have to be recorded already. -/
def record (kind : Kind) (supporters : List ReasonId) (location : Option Location) :
    Eval ReasonId := fun s =>
  match s.graph.add kind supporters location with
  | .ok (id, graph) => .done id { s with graph }
  | .error cause => .failed (.of (.graph cause)) s

def conj (description : String) (supporters : List ReasonId) : Eval ReasonId :=
  record (.conj description) supporters none

def conjAt (description : String) (supporters : List ReasonId) (location : Location) :
    Eval ReasonId :=
  record (.conj description) supporters (some location)

def equal (item value : String) (supporter : ReasonId) : Eval ReasonId :=
  record (.equal item value) [supporter] none

/-- Record that a name got a value at a location, asked for because of `calling`, and being what
it is because of `values`. -/
def full (name value : String) (location : Location) (calling : ReasonId)
    (values : List ReasonId) : Eval ReasonId :=
  record (.full name value calling values) (calling :: values) (some location)

/-- Hide a reason. -/
def hide (id : ReasonId) : Eval Unit := fun s =>
  match s.graph.hide id with
  | .ok graph => .done () { s with graph }
  | .error cause => .failed (.of (.graph cause)) s

/-! ## Scopes -/

/-- Make a scope below another. -/
def newScope (parent : ScopeId) (description : String) : Action ε ScopeId := fun s =>
  match s.scopes.child parent (some description) with
  | (scope, scopes) => .done scope { s with scopes }

/-- Declare a variable of a scope. -/
def declare (scope : ScopeId) (name : String) (info : Justified) : Eval Unit := fun s =>
  match s.scopes.declare scope name info with
  | .ok scopes => .done () { s with scopes }
  | .error fault => .failed (.of fault) s

/-- Assign to the nearest variable of a name. -/
def assign (scope : ScopeId) (name : String) (info : Justified) : Eval Unit := fun s =>
  match s.scopes.assign scope name info with
  | .ok scopes => .done () { s with scopes }
  | .error fault => .failed (.of fault) s

/-- Make a scope an object. -/
def setTag (scope : ScopeId) (tag : ObjectTag) : Action ε Unit :=
  change fun s => { s with scopes := s.scopes.update scope fun data => { data with tag } }

/-- Give an object its state, or a new state. -/
def setHandle (scope : ScopeId) (handle : Handle) : Action ε Unit :=
  change fun s => { s with scopes := s.scopes.update scope fun data =>
    { data with tag := data.tag.map fun tag => { tag with handle } } }

def currentScope : Action ε ScopeId := ask Session.currentScope

/-! ## Definitions -/

/-- Keep the definition of a function. -/
def define (function : FunctionDef) : Action ε FunctionId := fun s =>
  .done s.functions.size { s with functions := s.functions.push function }

/-- Keep the definition of a class. -/
def defineClass (classDef : ClassDef) : Action ε ClassId := fun s =>
  .done s.classes.size { s with classes := s.classes.push classDef }

/-- Let a function answer to the name of a method of a class. -/
def setMethod (id : ClassId) (name : String) (function : FunctionId) : Action ε Unit :=
  change fun s => { s with classes := s.classes.modify id fun classDef =>
    { classDef with methods := classDef.methods.insert name function } }

def newObjectNumber : Action ε Nat := fun s =>
  .done s.nextObject { s with nextObject := s.nextObject + 1 }

/-! ## Console -/

def print (message : String) : Action ε Unit :=
  change fun s => { s with console := s.console.print message }

def printLine (message : String) : Action ε Unit :=
  change fun s => { s with console := s.console.printLine message }

def readLine : Action ε (Option String) := fun s =>
  .done s.console.next? { s with console := s.console.advance }

/-! ## Texts of values -/

def render (value : Value) : Action ε String := ask (·.render value)

def renderAll (values : List Justified) : Action ε String := ask (·.renderAll values)

def describeScope (scope : ScopeId) : Action ε String := ask (·.scopes.description scope)

end Action

end Because
