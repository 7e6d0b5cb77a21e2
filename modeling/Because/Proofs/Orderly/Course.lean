import Because.Eval.Member
import Because.Eval.Object
import Because.Proofs.Graph.Order
import Because.Session.Start
import Mathlib.Logic.Relation

/-!
# The course of a session

A running program changes its session step by step, and there are few kinds of steps: a reason is
recorded or hidden, a scope or an object is made, a name is bound or a variable or property gets a
value, an object gets a new state, and a function, a class or a method is declared. A course is any
number of such changes. What every change keeps, all courses keep, and so all runs do.
-/

namespace Because

/-- A conclusion rests on something, unless it counts the items of a list that has none. -/
def Kind.Founded (supporters : List ReasonId) (kind : Kind) : Prop :=
  supporters = [] → ∃ list : String, kind = .conj s!"these {(0 : Nat)} items were added to {list}"

/-- The reasons have been recorded. -/
def Graph.Knows (g : Graph) (ids : List ReasonId) : Prop := ∀ j : Nat, j ∈ ids → j < g.size

/-- The graph with one more record of how a name got a value. -/
abbrev Graph.pushFull (g : Graph) (name value : String) (calling : ReasonId)
    (values : List ReasonId) (location : Option Location) : Graph :=
  g.push (.full name value calling values) (calling :: values) location

namespace Session

/-- If the function belongs to a built-in class, it hands one of the methods of this class over to
the state of its receiver. -/
def Wires (s : Session) (function : FunctionDef) : Prop :=
  ∀ owner builtin, function.owner = some owner → (s.classAt owner).builtin = some builtin →
    ∃ method ∈ builtin.methods, function = Builtin.function owner method.1 method.2

/-- The class of an object can be recorded among its properties: no field of the class is declared
twice, or called as the property that records the class. Objects of built-in classes have no other
properties. -/
def Constructs (s : Session) (id : ClassId) : Prop :=
  (s.classAt id).builtin.isSome ∨ (s.allFields id ++ [classField]).Nodup

/-- What a new object of a class binds: its class, unless its state could not be made or its
properties could not be declared. -/
def Prepares (s : Session) (id : ClassId) (handle : Option Handle) (bindings : Bindings) : Prop :=
  handle.map Handle.builtin = s.nativeBuiltin? id → s.Constructs id →
    ∃ why, bindings.get? classField = some ⟨.classRef id, why⟩

/-- Only the classes matter for the fields of objects. -/
lemma allFields_congr {s s' : Session} {id : ClassId} (same : s'.classes = s.classes) :
    s'.allFields id = s.allFields id := by
  have data (i : ClassId) : s'.classAt i = s.classAt i := by rw [classAt, same, ← classAt]
  have lineage (steps : Nat) (i : ClassId) : s'.lineageFrom steps i = s.lineageFrom steps i := by
    induction steps generalizing i with
    | zero => rfl
    | succ steps ih => simp only [lineageFrom, ih, data]
  simp only [allFields, Session.lineage, lineage, data]

/-- Whether an object is about to get its members depends on the classes alone. -/
lemma Prepares.of_classes {s s' : Session} {id : ClassId} {handle : Option Handle}
    {bindings : Bindings} (h : s.Prepares id handle bindings) (same : s'.classes = s.classes) :
    s'.Prepares id handle bindings := by
  have data (i : ClassId) : s'.classAt i = s.classAt i := by rw [classAt, same, ← classAt]
  intro complete constructs
  refine h (complete.trans ?_) ?_
  · simp only [nativeBuiltin?, data]
  · rwa [Constructs, allFields_congr same, data] at constructs

/-- How a running program changes a session at once. -/
inductive Change : Session → Session → Prop where
  /-- Scopes are entered or left, calls begin or end, and so on: no data of the program changes. -/
  | aside {s} (entered : List ScopeId) (calls : CallStack) (console : Console) (nextObject : Nat) :
    Change s { s with entered, calls, console, nextObject }
  | tell {s} {kind : Kind} : kind.IsLeaf →
    Change s { s with graph := s.graph.push kind [] none }
  | conclude {s} {kind : Kind} {supporters : List ReasonId} (location : Option Location) :
    s.graph.Knows supporters → kind.Founded supporters →
    Change s { s with graph := s.graph.push kind supporters location }
  | hide {s} (id : ReasonId) : Change s { s with graph := s.graph.hideAt id }
  | makeScope {s} {scope : Scope} : scope.tag = none →
    Change s { s with scopes := s.scopes.push scope }
  | makeObject {s} {scope : Scope} {tag : ObjectTag} : scope.tag = some tag →
    Nat.lt tag.classId s.classes.size → s.Prepares tag.classId tag.handle scope.bindings →
    Change s { s with scopes := s.scopes.push scope }
  /-- The new state is of the kind of the old one. -/
  | setHandle {s} {i : ScopeId} {tag : ObjectTag} {handle : Handle} :
    (s.scopes.scopeAt i).tag = some tag → tag.handle.map Handle.builtin = some handle.builtin →
    Change s { s with scopes := s.scopes.update i fun data =>
      { data with tag := data.tag.map fun tag => { tag with handle := some handle } } }
  | declare {s} {i : ScopeId} {name : String} {info : Justified} :
    (s.scopes.scopeAt i).tag = none → s.scopes.binds i name = false →
    Change s { s with scopes := s.scopes.bind i name info }
  /-- A variable gets a value, and this is recorded. Global variables only get values that way by
  their names. -/
  | assign {s} {i : ScopeId} {name shown text : String} {value : Value} {calling : ReasonId}
      {values : List ReasonId} (location : Option Location) :
    s.graph.Knows (calling :: values) → (s.scopes.scopeAt i).tag = none →
    s.scopes.binds i name = true → (i = globalScope → shown = name) →
    Change s { s with
      graph := s.graph.pushFull shown text calling values location
      scopes := s.scopes.bind i name ⟨value, s.graph.size⟩ }
  /-- A property of an object gets a value, and this is recorded. -/
  | assignProperty {s} {i : ScopeId} {name owner text : String} {value : Value}
      {calling : ReasonId} {values : List ReasonId} (location : Option Location) :
    s.graph.Knows (calling :: values) → (s.scopes.scopeAt i).tag.isSome →
    s.scopes.binds i name = true → Change s { s with
      graph := s.graph.pushFull (propertyText owner name) text calling values location
      scopes := s.scopes.bind i name ⟨value, s.graph.size⟩ }
  | makeFunction {s} {function : FunctionDef} :
    (∀ owner : Nat, function.owner = some owner → owner < s.classes.size) → s.Wires function →
    Change s { s with functions := s.functions.push function }
  | makeClass {s} {scope : Scope} {classDef : ClassDef} : scope.tag = none →
    (∀ p : Nat, classDef.parent = some p → p < s.classes.size) →
    (∀ base : Nat, classDef.nativeBase = some base → base ≤ s.classes.size) →
    Change s { s with scopes := s.scopes.push scope, classes := s.classes.push classDef }
  | makeMethod {s} {id : ClassId} {name : String} {f : FunctionId} (why : ReasonId) :
    (s.scopes.scopeAt (s.classAt id).implScope).tag = none →
    s.scopes.binds (s.classAt id).implScope name = false →
    Change s { s with
      scopes := s.scopes.bind (s.classAt id).implScope name ⟨.functionRef f, why⟩
      classes := s.classes.modify id fun classDef =>
        { classDef with methods := classDef.methods.insert name f } }

/-- The second session comes out of the first one by changes. -/
abbrev Course : Session → Session → Prop := Relation.ReflTransGen Change

/-- Every change keeps the property. -/
def Kept (P : Session → Prop) : Prop := ∀ ⦃s s' : Session⦄, s.Change s' → P s → P s'

/-- What every change keeps holds at the end of a course if it does at its beginning. -/
lemma Course.kept {P : Session → Prop} {s s' : Session} (course : s.Course s') (kept : Kept P)
    (holds : P s) : P s' := by
  induction course with
  | refl => exact holds
  | tail _ change ih => exact kept change ih

end Session

end Because
