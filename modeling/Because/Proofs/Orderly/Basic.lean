import Because.Proofs.Everywhere
import Because.Proofs.Rooted

/-!
# Orderly sessions

There are four kinds of scopes: the global one, those of blocks and function bodies, those that are
objects, and those that hold the methods of a class. They may not be mixed up: only the first two
kinds are ever entered or hang above an entered scope, so that variables are never sought in an
object or among methods; and what a scope holds denotes what it seems to. A session in which this
is so, and in which the table of every class agrees with the methods that the class and the classes
above it hold, is orderly.

Some statements are about programs that bind certain names only, and `names` says which.
-/

namespace Because

/-! ## Programs that bind certain names only -/

/-- A method takes `self` first, unless programs may bind `self` in other ways as well. -/
def TakesSelf (names : String → Prop) (params : List String) : Prop :=
  params.head? = some selfName ∨ names selfName

/-- The statement itself binds no other names. -/
def Stmt.BindsIn (names : String → Prop) : Stmt → Prop
  | .declare _ name _ | .assign _ name _ | .forEach _ name _ _ => names name
  | .declareFunction _ decl => names decl.name
  | .declareClass _ decl => ∀ method ∈ decl.methods, TakesSelf names method.params
  | _ => True

/-- Neither the statement nor any inside it binds other names. -/
def Stmt.Tidy (names : String → Prop) (stmt : Stmt) : Prop :=
  stmt.Everywhere (fun _ => True) (Stmt.BindsIn names)

/-- The body of the function binds only what it may, and a method takes `self` first. -/
structure FunctionDef.Tidy (names : String → Prop) (function : FunctionDef) : Prop where
  body : ∀ stmt ∈ function.body, stmt.Tidy names
  takesSelf : function.owner.isSome → TakesSelf names function.params

/-- A statement is tidy if it binds what it may and what is inside it is tidy. -/
lemma Stmt.tidy_iff {names : String → Prop} {stmt : Stmt} :
    stmt.Tidy names ↔ stmt.BindsIn names ∧ ∀ inner ∈ stmt.inside, inner.Tidy names := by
  refine Stmt.everywhere_iff.trans (and_congr_right fun _ => and_iff_right fun expr _ => ?_)
  exact Expr.everywhere_of_all (fun _ => trivial) expr

/-- If all names may be bound, every statement is fine. -/
lemma Stmt.tidy_all {names : String → Prop} (all : ∀ name, names name) (stmt : Stmt) :
    stmt.Tidy names := by
  refine Stmt.everywhere_of_all (fun _ => trivial) (fun stmt => ?_) stmt
  cases stmt with
  | declare | assign | forEach | declareFunction => exact all _
  | declareClass => exact fun _ _ => .inr (all _)
  | _ => trivial

/-- If all names may be bound, every program is tidy. -/
lemma Program.tidy_all {names : String → Prop} (all : ∀ name, names name) (program : Program) :
    ∀ stmt ∈ program, stmt.Tidy names :=
  fun stmt _ => Stmt.tidy_all all stmt

/-- Methods that a tidy statement declares are tidy. -/
lemma Stmt.Tidy.methods {names : String → Prop} {loc : Location} {decl : Class}
    (tidy : (Stmt.declareClass loc decl).Tidy names) (id : ClassId) :
    ∀ method ∈ decl.methods, FunctionDef.Tidy names
      ⟨method.name, method.params, method.body, some id, method.loc⟩ := by
  obtain ⟨own, inside⟩ := Stmt.tidy_iff.1 tidy
  intro method declared
  refine ⟨fun stmt mem => inside stmt (List.mem_flatMap.2 ⟨method, declared, mem⟩), fun _ => ?_⟩
  exact own method declared

namespace Session

/-! ## Kinds of scopes -/

/-- The scopes in which variables are sought, the innermost first. -/
def visible (s : Session) : List ScopeId := s.scopes.chain s.currentScope

/-- The scope holds the methods of a class. -/
def IsImpl (s : Session) (i : ScopeId) : Prop :=
  ∃ id : Nat, id < s.classes.size ∧ (s.classAt id).implScope = i

/-- The scope is there, and is neither an object nor holds the methods of a class. -/
structure Ordinary (s : Session) (i : ScopeId) : Prop where
  made : Nat.lt i s.scopes.size
  untagged : (s.scopes.scopeAt i).tag = none
  noImpl : ¬ s.IsImpl i

/-- The class of an object, and the built-in class whose state it has. -/
def kind? (s : Session) (i : ScopeId) : Option (ClassId × Option Builtin) :=
  (s.scopes.scopeAt i).tag.map fun tag => (tag.classId, tag.handle.map Handle.builtin)

/-- The class of an object is what its tag says. -/
lemma classOf_of_kind {s : Session} {i : ScopeId} {id : ClassId} {builtin : Option Builtin}
    (known : s.kind? i = some (id, builtin)) : s.classOf? (.object i) = some id := by
  obtain ⟨tag, tagged, same⟩ := Option.map_eq_some_iff.1 known
  have tagged : s.tag? (.object i) = some tag := tagged
  rw [classOf?, tagged]
  exact congrArg (fun kind => some kind.1) same

end Session

/-! ## Values -/

/-- The value denotes what it seems to: an object with the state that its class asks for, a class,
or a function that belongs to no class. -/
def Value.Fits (s : Session) : Value → Prop
  | .object i => ∃ id : Nat, id < s.classes.size ∧ s.kind? i = some (id, s.nativeBuiltin? id)
  | .classRef id => Nat.lt id s.classes.size
  | .functionRef f => Nat.lt f s.functions.size ∧ (s.functionAt f).owner = Option.none
  | _ => True

/-- All values of a list fit. -/
def Justified.AllFit (s : Session) (infos : List Justified) : Prop :=
  ∀ info ∈ infos, info.value.Fits s

/-- What a handle holds fits. -/
def Handle.Fits (s : Session) : Handle → Prop
  | .list items => Justified.AllFit s items
  | .dict entries => ∀ entry ∈ entries.slots, entry.key.value.Fits s ∧ entry.value.value.Fits s
  | _ => True

/-- What a statement has returned, if it has, fits. -/
def Flow.Fits (s : Session) : Flow → Prop
  | .normal => True
  | .returned result => result.value.Fits s

/-- A literal denotes itself. -/
lemma Value.fits_ofLiteral (s : Session) (literal : Literal) :
    (Value.ofLiteral literal).Fits s := by
  cases literal <;> trivial

namespace Justified.AllFit

variable {s : Session} {info : Justified} {infos : List Justified}

/-- No values all fit. -/
lemma nil : AllFit s [] := nofun

/-- Further values fit if each of them does. -/
lemma cons (first : info.value.Fits s) (rest : AllFit s infos) : AllFit s (info :: infos) :=
  List.forall_mem_cons.2 ⟨first, rest⟩

/-- A single value fits if it does. -/
lemma one (first : info.value.Fits s) : AllFit s [info] := cons first nil

end Justified.AllFit

/-! ## Classes -/

namespace Session

/-- The function that the class itself binds to the name of a method. -/
def ownMethod? (s : Session) (id : ClassId) (method : String) : Option FunctionId :=
  match s.scopes.local? (s.classAt id).implScope method with
  | some ⟨.functionRef function, _⟩ => some function
  | _ => none

/-- The class holds its own methods in a scope of their own, its table has these and those of its
parent, and it builds on the built-in class that its parent builds on. -/
structure ClassOrderly (s : Session) (id : ClassId) : Prop where
  made : Nat.lt (s.classAt id).implScope s.scopes.size
  untagged : (s.scopes.scopeAt (s.classAt id).implScope).tag = none
  native : (s.classAt id).nativeBase =
    if (s.classAt id).builtin.isSome then some id
    else (s.classAt id).parent.bind fun p => (s.classAt p).nativeBase
  topmost : (s.classAt id).builtin.isSome → (s.classAt id).parent = none
  own : ∀ method info, s.scopes.local? (s.classAt id).implScope method = some info →
    ∃ function : Nat, info.value = .functionRef function ∧ function < s.functions.size ∧
      (s.functionAt function).owner = some id
  table : ∀ method, (s.classAt id).methods.get? method =
    (s.ownMethod? id method).or
      ((s.classAt id).parent.bind fun p => (s.classAt p).methods.get? method)

/-- All scopes, classes and functions of the session are what they seem to be. -/
structure Orderly (names : String → Prop) (s : Session) : Prop where
  rooted : s.Rooted
  global : s.Ordinary globalScope
  root : ∀ i : Nat, i < s.scopes.size → s.scopes.parent? i = none → i = globalScope
  above : ∀ i p, ¬ s.IsImpl i → s.scopes.parent? i = some p → s.Ordinary p
  entered : ∀ i ∈ s.entered, s.Ordinary i
  bindings : ∀ i name info, ¬ s.IsImpl i → s.scopes.local? i name = some info → info.value.Fits s
  handles : ∀ i tag handle, (s.scopes.scopeAt i).tag = some tag → tag.handle = some handle →
    handle.Fits s
  classes : ∀ id : Nat, id < s.classes.size → s.ClassOrderly id
  apart : ∀ id id' : Nat, id < s.classes.size → id' < s.classes.size →
    (s.classAt id).implScope = (s.classAt id').implScope → id = id'
  frames : ∀ frame ∈ s.calls.frames, ∀ owner : Nat, frame.owner = some owner →
    owner < s.classes.size
  owners : ∀ f owner : Nat, f < s.functions.size → (s.functionAt f).owner = some owner →
    owner < s.classes.size
  tidy : ∀ f : Nat, f < s.functions.size → (s.functionAt f).Tidy names

end Session

/-! ## Walks -/

namespace Session

variable {names : String → Prop} {s : Session}

/-- The scopes above a scope are its parent and what is above that. -/
lemma Rooted.chain_eq (h : s.Rooted) (i : ScopeId) :
    s.scopes.chain i = i :: match s.scopes.parent? i with
      | some p => s.scopes.chain p
      | none => [] :=
  Scopes.Descending.chain_eq h.scopes i

/-- The classes above a class are its parent and what is above that. -/
lemma Rooted.lineage_eq (h : s.Rooted) (id : ClassId) :
    s.lineage id = id :: match (s.classAt id).parent with
      | some p => s.lineage p
      | none => [] :=
  walk_eq (fun _ _ => rfl) h.classes id

/-- A class is among those at or above it. -/
lemma Rooted.mem_lineage_self (h : s.Rooted) (id : ClassId) : id ∈ s.lineage id := by
  rw [h.lineage_eq]
  exact List.mem_cons_self

/-- What lies above the parent lies above the class. -/
lemma Rooted.mem_lineage_of_parent (h : s.Rooted) {id p ancestor : ClassId}
    (parent : (s.classAt id).parent = some p) (mem : ancestor ∈ s.lineage p) :
    ancestor ∈ s.lineage id := by
  rw [h.lineage_eq, parent]
  exact List.mem_cons_of_mem _ mem

/-- A class that lies above another is the class itself or lies above its parent. -/
lemma Rooted.mem_lineage (h : s.Rooted) {id ancestor : ClassId} (mem : ancestor ∈ s.lineage id) :
    ancestor = id ∨ ∃ p, (s.classAt id).parent = some p ∧ ancestor ∈ s.lineage p := by
  rw [h.lineage_eq] at mem
  cases mem with
  | head => exact .inl rfl
  | tail _ mem =>
    cases e : (s.classAt id).parent with
    | none =>
      rw [e] at mem
      cases mem
    | some p =>
      rw [e] at mem
      exact .inr ⟨p, rfl, mem⟩

/-- Induction along the classes above a class. -/
lemma Rooted.class_induction (h : s.Rooted) {motive : ClassId → Prop}
    (step : ∀ id, (∀ p, (s.classAt id).parent = some p → motive p) → motive id) (id : ClassId) :
    motive id := by
  induction id using Nat.strongRecOn with
  | ind id ih => exact step id fun p parent => ih p (h.classes id p parent)

/-- What is above a class is above all classes below it. -/
lemma Rooted.mem_lineage_trans (h : s.Rooted) {a b c : ClassId} (ha : a ∈ s.lineage b)
    (hb : b ∈ s.lineage c) : a ∈ s.lineage c := by
  induction c using h.class_induction with
  | step c ih =>
    obtain rfl | ⟨p, parent, mem⟩ := h.mem_lineage hb
    · exact ha
    · exact h.mem_lineage_of_parent parent (ih p parent mem)

/-- Classes above a class are not newer. -/
lemma Rooted.le_of_mem_lineage (h : s.Rooted) {ancestor id : ClassId}
    (mem : ancestor ∈ s.lineage id) : Nat.le ancestor id := by
  induction id using h.class_induction with
  | step id ih =>
    obtain rfl | ⟨p, parent, mem⟩ := h.mem_lineage mem
    · exact Nat.le_refl _
    · exact Nat.le_trans (ih p parent mem) (Nat.le_of_lt (h.classes id p parent))

namespace Orderly

variable (h : s.Orderly names)

include h

/-! ## Visible scopes -/

/-- The current scope is an ordinary one. -/
lemma currentScope : s.Ordinary s.currentScope := by
  have entered := h.entered
  unfold Session.currentScope
  cases e : s.entered with
  | nil => exact h.global
  | cons scope rest => exact entered scope (by simp [e])

/-- The global scope has no parent. -/
lemma global_parent : s.scopes.parent? globalScope = none := by
  cases e : s.scopes.parent? globalScope with
  | none => rfl
  | some p => exact absurd (h.rooted.scopes _ _ e) (Nat.not_lt_zero p)

/-- Above an ordinary scope there are only ordinary scopes, the last of which is the global one. -/
lemma chain_ordinary {i : ScopeId} (ordinary : s.Ordinary i) :
    (∀ j ∈ s.scopes.chain i, s.Ordinary j) ∧
      ∃ below, s.scopes.chain i = below ++ [globalScope] ∧ globalScope ∉ below := by
  induction i using Nat.strongRecOn with
  | ind i ih =>
    rw [h.rooted.chain_eq]
    cases e : s.scopes.parent? i with
    | none =>
      obtain rfl := h.root i ordinary.made e
      exact ⟨fun j mem => List.mem_singleton.1 mem ▸ ordinary, [], rfl, nofun⟩
    | some p =>
      have older := h.rooted.scopes i p e
      obtain ⟨all, below, eq, notMem⟩ := ih p older (h.above i p ordinary.noImpl e)
      refine ⟨List.forall_mem_cons.2 ⟨ordinary, all⟩, i :: below, ?_, ?_⟩
      · simp only [eq, List.cons_append]
      · -- Nothing lies above the global scope.
        have ne : globalScope ≠ i := by
          rintro rfl
          rw [h.global_parent] at e
          cases e
        exact fun mem => (List.mem_cons.1 mem).elim ne notMem

/-- Variables are sought in ordinary scopes only. -/
lemma visible_ordinary : ∀ i ∈ s.visible, s.Ordinary i := (h.chain_ordinary h.currentScope).1

/-- Variables are sought in the global scope as well. -/
lemma global_visible : globalScope ∈ s.visible := by
  obtain ⟨below, eq, -⟩ := (h.chain_ordinary h.currentScope).2
  rw [visible, eq]
  exact List.mem_append_right _ List.mem_cons_self

/-! ## What names denote -/

/-- Objects hold no methods of classes. -/
lemma noImpl_of_kind {i : ScopeId} {kind : ClassId × Option Builtin}
    (known : s.kind? i = some kind) : ¬ s.IsImpl i := by
  rintro ⟨id, lt, rfl⟩
  rw [kind?, (h.classes id lt).untagged] at known
  cases known

/-- Above a scope that holds no methods of a class there is none that does. -/
lemma chain_noImpl {i : ScopeId} (noImpl : ¬ s.IsImpl i) :
    ∀ j ∈ s.scopes.chain i, ¬ s.IsImpl j := by
  rw [h.rooted.chain_eq]
  cases e : s.scopes.parent? i with
  | none => exact fun j mem => List.mem_singleton.1 mem ▸ noImpl
  | some p =>
    have ordinary := (h.chain_ordinary (h.above i p noImpl e)).1
    exact List.forall_mem_cons.2 ⟨noImpl, fun j mem => (ordinary j mem).noImpl⟩

/-- A variable or a property denotes what it seems to. -/
lemma tryGet {i : ScopeId} (noImpl : ¬ s.IsImpl i) {name : String} {info : Justified}
    (found : s.scopes.tryGet i name = some info) : info.value.Fits s := by
  obtain ⟨owner, owns, holds⟩ := Option.bind_eq_some_iff.1 found
  have mem : owner ∈ s.scopes.chain i := List.mem_of_find?_eq_some owns
  exact h.bindings owner name info (h.chain_noImpl noImpl owner mem) holds

/-- What is read from a variable fits. -/
lemma get {i : ScopeId} (noImpl : ¬ s.IsImpl i) {name : String} {info : Justified}
    (found : s.scopes.get i name = .ok info) : info.value.Fits s := by
  unfold Scopes.get at found
  split at found
  · rename_i e
    cases found
    exact h.tryGet noImpl e
  · cases found

/-- A name that denotes a class denotes one that has been made. -/
lemma lookupClass {name : String} {id : ClassId} (found : s.lookupClass? name = some id) :
    Nat.lt id s.classes.size := by
  unfold lookupClass? at found
  split at found
  · rename_i why e
    cases found
    exact h.bindings _ _ _ h.global.noImpl e
  · cases found

/-- The state of an object fits. -/
lemma handle {value : Value} {handle : Handle} (found : s.handle? value = some handle) :
    handle.Fits s := by
  obtain ⟨tag, tagged, e⟩ := Option.bind_eq_some_iff.1 found
  obtain ⟨i, -, e'⟩ := Option.bind_eq_some_iff.1 tagged
  exact h.handles i tag handle e' e

/-! ## Methods -/

/-- The class that defines the running method is there. -/
lemma owner_lt {owner : ClassId} (runs : s.calls.owner? = some owner) :
    Nat.lt owner s.classes.size := by
  obtain ⟨frame, first, owns⟩ := Option.bind_eq_some_iff.1 runs
  exact h.frames frame (List.mem_of_mem_head? first) owner owns

/-- The methods in the table of a class belong to this class or to one above it. -/
lemma method_owner {id : ClassId} (lt : Nat.lt id s.classes.size) {method : String}
    {function : FunctionId} (found : (s.classAt id).methods.get? method = some function) :
    Nat.lt function s.functions.size ∧
      ∃ owner ∈ s.lineage id, (s.functionAt function).owner = some owner := by
  induction id using h.rooted.class_induction with
  | step id ih =>
    rw [(h.classes id lt).table] at found
    obtain own | ⟨-, inherited⟩ := Option.or_eq_some_iff.1 found
    · unfold ownMethod? at own
      split at own
      · rename_i f why e
        cases own
        obtain ⟨f', same, made, owns⟩ := (h.classes id lt).own _ _ e
        cases same
        exact ⟨made, id, h.rooted.mem_lineage_self id, owns⟩
      · cases own
    · obtain ⟨p, parent, inherited⟩ := Option.bind_eq_some_iff.1 inherited
      have lt' : Nat.lt p s.classes.size := Nat.lt_trans (h.rooted.classes id p parent) lt
      obtain ⟨made, owner, mem, owns⟩ := ih p parent lt' inherited
      exact ⟨made, owner, h.rooted.mem_lineage_of_parent parent mem, owns⟩

/-- A class builds on the built-in class that lies above it. -/
lemma nativeBase_eq {id base : ClassId} (lt : Nat.lt id s.classes.size) (mem : base ∈ s.lineage id)
    (builtin : (s.classAt base).builtin.isSome) : (s.classAt id).nativeBase = some base := by
  induction id using h.rooted.class_induction with
  | step id ih =>
    rw [(h.classes id lt).native]
    obtain rfl | ⟨p, parent, mem⟩ := h.rooted.mem_lineage mem
    · rw [if_pos builtin]
    · -- Built-in classes have no parent, and this class has one.
      have notBuiltin : ¬ (s.classAt id).builtin.isSome := by
        intro isBuiltin
        rw [(h.classes id lt).topmost isBuiltin] at parent
        cases parent
      rw [if_neg notBuiltin, parent]
      exact ih p parent (Nat.lt_trans (h.rooted.classes id p parent) lt) mem

/-- The built-in class that a class builds on is not newer than it. -/
lemma nativeBase_le {id base : ClassId} (lt : Nat.lt id s.classes.size)
    (builds : (s.classAt id).nativeBase = some base) : Nat.le base id := by
  induction id using h.rooted.class_induction with
  | step id ih =>
    rw [(h.classes id lt).native] at builds
    split at builds
    · cases builds
      exact Nat.le_refl _
    · obtain ⟨p, parent, builds⟩ := Option.bind_eq_some_iff.1 builds
      have older := h.rooted.classes id p parent
      exact Nat.le_trans (ih p parent (Nat.lt_trans older lt) builds) (Nat.le_of_lt older)

end Orderly

/-! ## Receivers -/

/-- The value is an object of the class or of one below it. -/
def InstanceOf (s : Session) (value : Value) (id : ClassId) : Prop :=
  ∃ actual, s.classOf? value = some actual ∧ id ∈ s.lineage actual

/-- If the function belongs to a class, the first argument is an object of this class or of one
below it. -/
def Receives (s : Session) (function : FunctionId) (args : List Justified) : Prop :=
  ∀ owner, (s.functionAt function).owner = some owner →
    ∃ receiver rest, args = receiver :: rest ∧ s.InstanceOf receiver.value owner

namespace Orderly

variable (h : s.Orderly names)

include h

/-- Objects have the state that their class asks for. -/
lemma handle_of_instance {value : Value} {id : ClassId} {builtin : Builtin} (fits : value.Fits s)
    (instance_ : s.InstanceOf value id) (isBuiltin : (s.classAt id).builtin = some builtin) :
    ∃ handle, s.handle? value = some handle ∧ handle.builtin = builtin := by
  obtain ⟨actual, class_, mem⟩ := instance_
  cases value with
  | object i =>
    obtain ⟨id', lt, kind⟩ := fits
    obtain ⟨tag, tagged, eq⟩ := Option.map_eq_some_iff.1 kind
    have tagged' : s.tag? (.object i) = some tag := tagged
    obtain ⟨rfl, state⟩ := Prod.mk.inj eq
    rw [classOf?, tagged'] at class_
    cases class_
    have base := h.nativeBase_eq lt mem (Option.isSome_iff_exists.2 ⟨_, isBuiltin⟩)
    rw [nativeBuiltin?, base, Option.bind_some, isBuiltin] at state
    obtain ⟨handle, holds, rfl⟩ := Option.map_eq_some_iff.1 state
    refine ⟨handle, ?_, rfl⟩
    rw [handle?, tagged', Option.bind_some, holds]
  | _ => cases class_

end Orderly

end Session

end Because
