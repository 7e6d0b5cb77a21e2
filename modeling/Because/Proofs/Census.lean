import Because.Eval.Inner
import Because.Native.Basic
import Mathlib.Tactic.Common

/-!
# Censuses

A census says which numbers have been given out: of reasons, scopes, objects, classes and
functions. Data lies *in* a census if every number that it holds is one of these. Numbers are
never taken back, so that censuses only grow, and data that lies in one of them lies in every
later one (the lemmas named `mono`).
-/

namespace Because

/-- The numbers that have been given out. -/
structure Census where
  reason : ReasonId → Prop
  scope : ScopeId → Prop
  /-- The scopes that have been made objects. -/
  object : ScopeId → Prop
  classId : ClassId → Prop
  function : FunctionId → Prop
  scope_of_object : ∀ {o}, object o → scope o

namespace Census

/-- A later census lacks nothing. -/
structure Le (c d : Census) : Prop where
  reason : ∀ {i}, c.reason i → d.reason i
  scope : ∀ {i}, c.scope i → d.scope i
  object : ∀ {i}, c.object i → d.object i
  classId : ∀ {i}, c.classId i → d.classId i
  function : ∀ {i}, c.function i → d.function i

/-- A census lacks nothing of itself. -/
lemma Le.refl (c : Census) : c.Le c := ⟨id, id, id, id, id⟩

/-- What a census lacks nothing of, it lacks nothing of what that one has. -/
lemma Le.trans {c d e : Census} (cd : c.Le d) (de : d.Le e) : c.Le e where
  reason h := de.reason (cd.reason h)
  scope h := de.scope (cd.scope h)
  object h := de.object (cd.object h)
  classId h := de.classId (cd.classId h)
  function h := de.function (cd.function h)

/-- The census of all numbers. -/
def all : Census where
  reason _ := True
  scope _ := True
  object _ := True
  classId _ := True
  function _ := True
  scope_of_object := id

end Census

variable {c d : Census}

/-- A scope that names are bound in: an ordinary one or an object. -/
def Census.place (c : Census) (scope : ScopeId) : Prop := c.scope scope ∨ c.object scope

/-! ## Values -/

/-- The object, class or function that a value is has been made. -/
def Value.In (c : Census) : Value → Prop
  | .object scope => c.object scope
  | .classRef id => c.classId id
  | .functionRef id => c.function id
  | _ => True

/-- A value lies in every later census. -/
lemma Value.In.mono {v : Value} (le : c.Le d) (h : v.In c) : v.In d := by
  cases v with
  | object => exact le.object h
  | classRef => exact le.classId h
  | functionRef => exact le.function h
  | _ => trivial

/-- Literals hold no numbers, and so lie in every census. -/
lemma Value.In.ofLiteral (l : Literal) : (Value.ofLiteral l).In c := by
  cases l <;> trivial

/-- A value and its reason lie in the census. -/
structure Justified.In (c : Census) (info : Justified) : Prop where
  value : info.value.In c
  why : c.reason info.why

/-- A value with its reason lies in every later census. -/
lemma Justified.In.mono {info : Justified} (le : c.Le d) (h : info.In c) : info.In d :=
  ⟨h.value.mono le, le.reason h.why⟩

/-- None lies in a census if its reason does. -/
lemma Justified.In.none {why : ReasonId} (h : c.reason why) : (Justified.none why).In c :=
  ⟨trivial, h⟩

/-- Several values lie in the census. -/
def Justified.AllIn (c : Census) (infos : List Justified) : Prop := ∀ info ∈ infos, info.In c

namespace Justified.AllIn

/-- Several values lie in every later census. -/
lemma mono {infos : List Justified} (le : c.Le d) (h : AllIn c infos) : AllIn d infos :=
  fun info mem => (h info mem).mono le

/-- No values at all lie in every census. -/
lemma nil : AllIn c [] := nofun

/-- One more value lies in the census with the rest. -/
lemma cons {info : Justified} {infos : List Justified} (h : info.In c) (hs : AllIn c infos) :
    AllIn c (info :: infos) := by
  intro other mem
  cases mem with
  | head => exact h
  | tail _ mem => exact hs other mem

/-- A list of a single value lies in the census if the value does. -/
lemma one {info : Justified} (h : info.In c) : AllIn c [info] := cons h nil

/-- Two lists lie in the census together. -/
lemma append {infos others : List Justified} (h : AllIn c infos) (h' : AllIn c others) :
    AllIn c (infos ++ others) := by
  intro info mem
  obtain mem | mem := List.mem_append.1 mem
  · exact h info mem
  · exact h' info mem

/-- Some values of a list lie in the census if all do. -/
lemma subset {infos others : List Justified} (h : AllIn c infos) (sub : others ⊆ infos) :
    AllIn c others :=
  fun info mem => h info (sub mem)

/-- The reasons of known values are known. -/
lemma reasons {infos : List Justified} (h : AllIn c infos) : ∀ i ∈ reasons infos, c.reason i := by
  intro i mem
  obtain ⟨info, found, rfl⟩ := List.mem_map.1 mem
  exact (h info found).why

end Justified.AllIn

/-! ## Handles -/

/-- The object or value that a key is lies in the census. -/
def Key.In (c : Census) : Key → Prop
  | .object scope => c.object scope
  | .plain value => value.In c
  | _ => True

/-- A key lies in every later census. -/
lemma Key.In.mono {key : Key} (le : c.Le d) (h : key.In c) : key.In d := by
  cases key with
  | object => exact le.object h
  | plain => exact Value.In.mono le h
  | _ => trivial

/-- An entry of a dictionary lies in the census. -/
structure Entry.In (c : Census) (entry : Entry) : Prop where
  key : entry.key.In c
  value : entry.value.In c

/-- An entry lies in every later census. -/
lemma Entry.In.mono {entry : Entry} (le : c.Le d) (h : entry.In c) : entry.In d :=
  ⟨h.key.mono le, h.value.mono le⟩

/-- The entries of a dictionary lie in the census, with the keys by which they are found. -/
structure Ledger.In (c : Census) (entries : Ledger Key Entry) : Prop where
  keys : ∀ key ∈ entries.keys, key.In c
  slots : ∀ entry ∈ entries.slots, entry.In c

/-- Entries with an index lie in every later census. -/
lemma Ledger.In.mono {entries : Ledger Key Entry} (le : c.Le d) (h : Ledger.In c entries) :
    Ledger.In d entries :=
  ⟨fun key mem => (h.keys key mem).mono le, fun entry mem => (h.slots entry mem).mono le⟩

/-- An empty dictionary holds nothing. -/
lemma Ledger.In.empty : Ledger.In c {} := ⟨nofun, nofun⟩

/-- What is put lies in the census as the rest does. -/
lemma Ledger.In.put {entries : Ledger Key Entry} {key : Key} {entry : Entry}
    (h : Ledger.In c entries) (slot : key.In c) (new : entry.In c) :
    Ledger.In c (entries.put key entry) where
  keys other mem := by
    obtain rfl | old := Ledger.mem_keys_put mem
    · exact slot
    · exact h.keys other old
  slots other mem := by
    obtain rfl | old := Ledger.mem_put mem
    · exact new
    · exact h.slots other old

/-- All that a handle holds lies in the census. -/
def Handle.In (c : Census) : Handle → Prop
  | .text _ why | .truth _ why | .number _ why => c.reason why
  | .list items => Justified.AllIn c items
  | .dict entries => Ledger.In c entries

/-- The state of an object lies in every later census. -/
lemma Handle.In.mono {h : Handle} (le : c.Le d) (hc : h.In c) : h.In d := by
  cases h with
  | list => exact Justified.AllIn.mono le hc
  | dict => exact Ledger.In.mono le hc
  | _ => exact le.reason hc

/-- The items that a loop visits lie in the census with the handle. -/
lemma Handle.In.items {h : Handle} {items : List Justified} (hc : h.In c)
    (found : h.items? = some items) : Justified.AllIn c items := by
  cases h with
  | list => cases found; exact hc
  | dict entries =>
    cases found
    intro info mem
    obtain ⟨entry, found, rfl⟩ := List.mem_map.1 mem
    exact (hc.slots entry found).key
  | _ => cases found

/-! ## Scopes -/

/-- The class and the handle of an object lie in the census. -/
structure ObjectTag.In (c : Census) (tag : ObjectTag) : Prop where
  classId : c.classId tag.classId
  handle : ∀ h ∈ tag.handle, h.In c

/-- The tag of an object lies in every later census. -/
lemma ObjectTag.In.mono {tag : ObjectTag} (le : c.Le d) (h : tag.In c) : tag.In d :=
  ⟨le.classId h.classId, fun x mem => (h.handle x mem).mono le⟩

/-- All that a scope holds lies in the census. -/
structure Scope.In (c : Census) (scope : Scope) : Prop where
  bindings : ∀ binding ∈ scope.bindings, binding.2.In c
  parent : ∀ p ∈ scope.parent, c.scope p
  tag : ∀ tag ∈ scope.tag, tag.In c

/-- A scope lies in every later census. -/
lemma Scope.In.mono {scope : Scope} (le : c.Le d) (h : scope.In c) : scope.In d :=
  ⟨fun b mem => (h.bindings b mem).mono le, fun p mem => le.scope (h.parent p mem),
   fun t mem => (h.tag t mem).mono le⟩

/-- A scope that binds nothing holds nothing. -/
lemma Scope.In.bare (description : String) : Scope.In c { description } := ⟨nofun, nofun, nofun⟩

/-- All that the scopes of a session hold lies in the census. -/
def Scopes.In (c : Census) (scopes : Scopes) : Prop := ∀ i, (scopes.scopeAt i).In c

namespace Scopes.In

variable {scopes : Scopes}

/-- All scopes lie in every later census. -/
lemma mono (le : c.Le d) (h : scopes.In c) : scopes.In d :=
  fun i => (h i).mono le

/-- A known scope may be added to known scopes. -/
lemma push {scope : Scope} (h : scopes.In c) (hs : scope.In c) : (scopes.push scope).In c := by
  intro i
  rw [scopeAt_push]
  split
  · exact hs
  · exact h i

/-- A change that keeps a scope in the census keeps all of them there. -/
lemma update {s : ScopeId} {f : Scope → Scope} (h : scopes.In c)
    (hf : ∀ scope : Scope, scope.In c → (f scope).In c) : (scopes.update s f).In c := by
  intro i
  rw [scopeAt_update]
  split
  · exact hf _ (h i)
  · exact h i

/-- A known value may be bound in any scope. -/
lemma bind {s : ScopeId} {name : String} {info : Justified} (h : scopes.In c) (hi : info.In c) :
    (scopes.bind s name info).In c := by
  apply h.update
  intro scope hs
  refine ⟨?_, hs.parent, hs.tag⟩
  intro binding mem
  obtain rfl | mem := Assoc.mem_insert mem
  · exact hi
  · exact hs.bindings binding mem

/-- What a scope binds a name to lies in the census. -/
lemma local? {s : ScopeId} {name : String} {info : Justified} (h : scopes.In c)
    (found : scopes.local? s name = some info) : info.In c :=
  (h s).bindings _ (Assoc.mem_of_get? found)

/-- What a name means lies in the census, wherever it is found. -/
lemma tryGet {s : ScopeId} {name : String} {info : Justified} (h : scopes.In c)
    (found : scopes.tryGet s name = some info) : info.In c := by
  obtain ⟨owner, _, bound⟩ := Option.bind_eq_some_iff.1 found
  exact h.local? bound

end Scopes.In

/-! ## Definitions and calls -/

/-- All that the definition of a class holds lies in the census. -/
structure ClassDef.In (c : Census) (classDef : ClassDef) : Prop where
  parent : ∀ p ∈ classDef.parent, c.classId p
  implScope : c.scope classDef.implScope
  methods : ∀ method ∈ classDef.methods, c.function method.2
  nativeBase : ∀ b ∈ classDef.nativeBase, c.classId b

/-- A class lies in every later census. -/
lemma ClassDef.In.mono {classDef : ClassDef} (le : c.Le d) (h : classDef.In c) : classDef.In d :=
  ⟨fun p mem => le.classId (h.parent p mem), le.scope h.implScope,
   fun m mem => le.function (h.methods m mem), fun b mem => le.classId (h.nativeBase b mem)⟩

/-- The class that defines a method lies in the census. -/
def FunctionDef.In (c : Census) (function : FunctionDef) : Prop :=
  ∀ owner ∈ function.owner, c.classId owner

/-- A function lies in every later census. -/
lemma FunctionDef.In.mono {f : FunctionDef} (le : c.Le d) (h : f.In c) : f.In d :=
  fun owner mem => le.classId (h owner mem)

/-- The class that defines the running method lies in the census. -/
def Frame.In (c : Census) (frame : Frame) : Prop := ∀ owner ∈ frame.owner, c.classId owner

/-- A call in progress lies in every later census. -/
lemma Frame.In.mono {frame : Frame} (le : c.Le d) (h : frame.In c) : frame.In d :=
  fun owner mem => le.classId (h owner mem)

/-! ## Ends -/

/-- What a statement returns lies in the census. -/
def Flow.In (c : Census) : Flow → Prop
  | .normal => True
  | .returned result => result.In c

/-- The way in which statements end lies in every later census. -/
lemma Flow.In.mono {flow : Flow} (le : c.Le d) (h : flow.In c) : flow.In d := by
  cases flow with
  | normal => trivial
  | returned => exact Justified.In.mono le h

/-- The reason that a failure gives lies in the census. -/
def Failure.In (c : Census) (failure : Failure) : Prop := ∀ why ∈ failure.why, c.reason why

/-- The reason of a failure that came from the program lies in the census. -/
def NativeFault.In (c : Census) : NativeFault → Prop
  | .failure cause => cause.In c
  | _ => True

end Because
