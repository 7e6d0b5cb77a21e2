import Because.Assoc
import Because.Failure
import Because.Handle

/-!
# Scopes

A scope binds names to justified values. Names that it does not bind are sought in its parent,
which is an older scope. An object is a scope with a tag. Scopes are numbered in the order in
which they are made, and none is ever removed.
-/

namespace Because

/-- The names of a scope with their values, in the order of their declaration. -/
abbrev Bindings := Assoc String Justified

/-- What makes a scope an object. -/
structure ObjectTag where
  /-- The number of the object, from 1. -/
  number : Nat
  classId : ClassId
  /-- The state of an object of a built-in class. -/
  handle : Option Handle
  deriving DecidableEq, Inhabited

/-- A scope. -/
structure Scope where
  bindings : Bindings := []
  parent : Option ScopeId := none
  description : String := ""
  tag : Option ObjectTag := none
  deriving DecidableEq, Inhabited

/-- All scopes of one session, each at the place that its number gives. -/
structure Scopes where
  all : Array Scope := #[]
  deriving Inhabited

namespace Scopes

@[inline] def size (scopes : Scopes) : Nat := scopes.all.size

/-- The scope with a number; a number that no scope has stands for an empty one. -/
def scopeAt (scopes : Scopes) (s : ScopeId) : Scope := scopes.all[s]?.getD {}

def description (scopes : Scopes) (s : ScopeId) : String := (scopes.scopeAt s).description

/-- Where names that a scope does not bind are sought. -/
def parent? (scopes : Scopes) (s : ScopeId) : Option ScopeId := (scopes.scopeAt s).parent

@[inline] def update (scopes : Scopes) (s : ScopeId) (f : Scope → Scope) : Scopes :=
  { all := scopes.all.modify s f }

@[inline] def push (scopes : Scopes) (scope : Scope) : Scopes := { all := scopes.all.push scope }

/-- Make a scope without a parent. -/
def root (scopes : Scopes) (description : String) : ScopeId × Scopes :=
  (scopes.size, scopes.push { description })

/-- What a child of a scope is called if nothing else is said. -/
def childDescription (scopes : Scopes) (parent : ScopeId) : String :=
  s!"child scope of {scopes.description parent}"

/-- Make a scope below `parent`. -/
@[inline] def child (scopes : Scopes) (parent : ScopeId) (description : Option String) :
    ScopeId × Scopes :=
  (scopes.size, scopes.push
    { parent := some parent, description := description.getD (scopes.childDescription parent) })

/-- The value that a scope itself binds to a name. -/
def local? (scopes : Scopes) (s : ScopeId) (name : String) : Option Justified :=
  (scopes.scopeAt s).bindings.get? name

/-- Whether a scope itself binds a name. -/
def binds (scopes : Scopes) (s : ScopeId) (name : String) : Bool :=
  (scopes.scopeAt s).bindings.contains name

/-- A scope and those above it, as far as `steps` reach. -/
def chainFrom (scopes : Scopes) : Nat → ScopeId → List ScopeId
  | 0, _ => []
  | steps + 1, s =>
    s :: match scopes.parent? s with
      | some parent => scopes.chainFrom steps parent
      | none => []

/-- A scope and all scopes above it, the scope first. Parents are older, so that there are not
more of them than the number of the scope. -/
def chain (scopes : Scopes) (s : ScopeId) : List ScopeId := scopes.chainFrom (s + 1) s

/-- The nearest scope, from `s` upwards, that binds a name. -/
def tryFind (scopes : Scopes) (s : ScopeId) (name : String) : Option ScopeId :=
  (scopes.chain s).find? fun t => scopes.binds t name

/-- The nearest scope, from `s` upwards, that binds a name, which there has to be. -/
def find (scopes : Scopes) (s : ScopeId) (name : String) : Except Fault ScopeId :=
  match scopes.tryFind s name with
  | some owner => .ok owner
  | none => .error (.undefinedVariable name (scopes.description s))

/-- The value of a name as `s` sees it. -/
def tryGet (scopes : Scopes) (s : ScopeId) (name : String) : Option Justified :=
  (scopes.tryFind s name).bind fun owner => scopes.local? owner name

/-- The value that a name means from a scope. -/
def get (scopes : Scopes) (s : ScopeId) (name : String) : Except Fault Justified :=
  match scopes.tryGet s name with
  | some info => .ok info
  | none => .error (.undefinedVariable name (scopes.description s))

/-- Let `s` itself bind a name to a value. -/
@[inline] def bind (scopes : Scopes) (s : ScopeId) (name : String) (info : Justified) : Scopes :=
  scopes.update s fun scope => { scope with bindings := scope.bindings.insert name info }

/-- Bind a name in `s` that `s` does not bind yet, whatever the scopes above it bind. -/
@[inline] def declare (scopes : Scopes) (s : ScopeId) (name : String) (info : Justified) :
    Except Fault Scopes :=
  if scopes.binds s name then .error (.duplicateDeclaration name (scopes.description s))
  else .ok (scopes.bind s name info)

/-- Change the nearest binding of a name, which there has to be. -/
@[inline] def assign (scopes : Scopes) (s : ScopeId) (name : String) (info : Justified) :
    Except Fault Scopes :=
  match scopes.tryFind s name with
  | some owner => .ok (scopes.bind owner name info)
  | none => .error (.undefinedVariable name (scopes.description s))

/-- A new scope comes on top of those that are there. -/
theorem size_push (scopes : Scopes) (scope : Scope) :
    (scopes.push scope).size = scopes.size + 1 :=
  Array.size_push ..

/-- Changing a scope makes no other one and removes none. -/
theorem size_update (scopes : Scopes) (s : ScopeId) (f : Scope → Scope) :
    (scopes.update s f).size = scopes.size :=
  Array.size_modify

/-- A new scope stands at the next number, and the others stay where they are. -/
theorem scopeAt_push (scopes : Scopes) (scope : Scope) (t : ScopeId) :
    (scopes.push scope).scopeAt t = if t = scopes.size then scope else scopes.scopeAt t := by
  simp only [push, scopeAt, size, Array.getElem?_push]
  by_cases h : t = scopes.all.size <;> simp [h]

/-- A change of one scope leaves the others alone; there is nothing to change beyond the last. -/
theorem scopeAt_update (scopes : Scopes) (s : ScopeId) (f : Scope → Scope) (t : ScopeId) :
    (scopes.update s f).scopeAt t =
      if s = t ∧ s < scopes.size then f (scopes.scopeAt t) else scopes.scopeAt t := by
  simp only [update, scopeAt, size, Array.getElem?_modify]
  by_cases h : s = t
  · subst h
    by_cases k : s < scopes.all.size
    · simp [k]
    · simp [k]
  · simp [h]

end Scopes

end Because
