import Because.Proofs.Comparison.Object
import Because.Proofs.Orderly.Call

/-!
# Declarations and constructions in orderly sessions

A class is declared before its methods, and whatever method a declaration fails on, the table of the
class and the scope of its methods have the same ones. An object is of its class, and has the state
that its class asks for, before anything else sees it.
-/

namespace Because

open Session

/-- The session with one more object of a class, some properties of which have been declared. -/
def Session.withObject (s : Session) (className : String) (id : ClassId) (handle : Option Handle)
    (graph : Graph) (bindings : Bindings) : Session :=
  { s with graph, nextObject := s.nextObject + 1 }.withScope
    { parent := some s.currentScope, description := s!"{className}@{s.nextObject}",
      tag := some ⟨s.nextObject, id, handle⟩, bindings }

/-- The value is a new object of the class that the name means, with the state that the class asks
for. -/
def Session.Builds (s : Session) (className : String) (info : Justified) (now : Session) : Prop :=
  ∃ id : ClassId, s.lookupClass? className = some id ∧ Nat.lt id now.classes.size ∧
    info.value = .object s.scopes.size ∧
    now.kind? s.scopes.size = some (id, now.nativeBuiltin? id)

/-- A new object of a class fits. -/
lemma Session.Builds.fits {s now : Session} {className : String} {info : Justified}
    (h : s.Builds className info now) : info.value.Fits now := by
  obtain ⟨id, -, lt, value, kind⟩ := h
  rw [value]
  exact ⟨id, lt, kind⟩

/-- A fault of the method itself is none of the program. -/
lemma NativeFault.IsOwn.calm {fault : NativeFault} (own : fault.IsOwn) : fault.Calm := by
  rintro failure rfl
  exact own.elim

namespace Regime

variable {R : Regime} {inner : Inner} {s : Session} {v : List ScopeId} {why : ReasonId}

/-! ## Declarations -/

/-- A class that has just been declared gets a new function as a method, or none if it has one of
that name. -/
lemma addMethod_leads (good : R.Good s) {now : Session} (orderly : now.Orderly R.names)
    (later : s.Later (places R.names v) now) {id : Nat} (newest : id + 1 = now.classes.size)
    (new : s.scopes.size ≤ (now.classAt id).implScope) {function : FunctionDef}
    (tidy : function.Tidy R.names) (owner : function.owner = some id) (wires : now.Wires function)
    (name : String) {graph : Graph} (tells : now.Change { now with graph }) :
    R.Leads v Failure.Calm
      (fun _ now' => id + 1 = now'.classes.size ∧
        now'.classAt id = { now.classAt id with methods := (now'.classAt id).methods }) s
      ((Action.declare (now.classAt id).implScope name ⟨.functionRef now.functions.size, why⟩ >>=
        fun _ => Action.setMethod id name now.functions.size)
        { now with graph, functions := now.functions.push function }) := by
  let told : Session := { now with graph }
  have quiet : told.Orderly R.names :=
    orderly.sameStore ⟨rfl, rfl, rfl⟩ orderly.entered orderly.frames
  have lt : id < now.classes.size := Nat.lt_of_lt_of_eq (Nat.lt_succ_self _) newest
  have owned (owner' : Nat) (owns : function.owner = some owner') : owner' < now.classes.size := by
    cases owner.symm.trans owns
    exact lt
  have orderly1 : (told.withFunction function).Orderly R.names := quiet.withFunction tidy owned
  have later1 : s.Later (places R.names v) (told.withFunction function) := by
    have grows : now.Grows (places R.names v) (told.withFunction function) :=
      { withFunction_grows told function with }
    exact ⟨later.grows.trans good.orderly.implScope_lt grows fun _ _ opens _ => opens,
      ⟨later.same.entered, later.same.calls⟩,
      (later.course.tail tells).tail (.makeFunction owned wires)⟩
  have self : (told.withFunction function).functionAt now.functions.size = function :=
    (functionAt_withFunction ..).trans (if_pos rfl)
  have made : now.functions.size < (told.withFunction function).functions.size :=
    Nat.lt_of_lt_of_eq (Nat.lt_succ_self _) (Array.size_push ..).symm
  let done := (told.withFunction function).withMethod id name now.functions.size why
  have orderly2 : done.Orderly R.names :=
    orderly1.withMethod why newest made ((congrArg FunctionDef.owner self).trans owner)
  have grows := withMethod_grows (s := told.withFunction function) id name now.functions.size why
  have untagged : ((told.withFunction function).scopes.scopeAt (now.classAt id).implScope).tag =
      none := (orderly.classes id lt).untagged
  -- The scope of the methods is newer than `s`, and so no place that was there is opened.
  have later2 (free : (told.withFunction function).scopes.binds (now.classAt id).implScope name =
      false) : s.Later (places R.names v) done := by
    refine ⟨later1.grows.trans good.orderly.implScope_lt grows ?_,
      ⟨later.same.entered, later.same.calls⟩, later1.course.tail (.makeMethod why untagged free)⟩
    rintro i _ rfl old
    exact absurd old (Nat.not_lt.2 new)
  change R.Leads v Failure.Calm _ s
    ((Action.declare (now.classAt id).implScope name ⟨.functionRef now.functions.size, why⟩ >>=
      fun _ => Action.setMethod id name now.functions.size) (told.withFunction function))
  simp only [Bind.bind, Action.declare, Scopes.declare]
  cases free : (told.withFunction function).scopes.binds (now.classAt id).implScope name with
  | true => exact .failed (good.later orderly1 later1) later1 (.duplicate _ _)
  | false =>
    have later2 := later2 free
    refine .done (good.later orderly2 later2) later2 ⟨?_, grows.classAt id lt⟩
    exact newest.trans Array.size_modify.symm

/-- Methods are declared one after the other, for a class that is the newest one all the while. -/
lemma declareMethods_leads (good : R.Good s) {now : Session} (orderly : now.Orderly R.names)
    (later : s.Later (places R.names v) now) {id : Nat} (newest : id + 1 = now.classes.size)
    (new : s.scopes.size ≤ (now.classAt id).implScope)
    (user : (now.classAt id).builtin = none) {methods : List Function}
    (tidy : ∀ decl ∈ methods, FunctionDef.Tidy R.names
      ⟨decl.name, decl.params, decl.body, some id, decl.loc⟩) :
    R.Leads v Failure.Calm Any s (declareMethods id (now.classAt id).implScope methods now) := by
  induction methods generalizing now with
  | nil => exact .done (good.later orderly later) later trivial
  | cons decl rest ih =>
    obtain ⟨first, others⟩ := List.forall_mem_cons.1 tidy
    change R.Leads v Failure.Calm Any s
      ((Action.declare (now.classAt id).implScope decl.name
          ⟨.functionRef now.functions.size, now.graph.size⟩ >>= fun _ =>
        Action.setMethod id decl.name now.functions.size >>= fun _ =>
          declareMethods id (now.classAt id).implScope rest)
        { now with
          graph := (now.graph.text s!"def {decl.name} is in my program").2
          functions := now.functions.push
            ⟨decl.name, decl.params, decl.body, some id, decl.loc⟩ })
    rw [← Action.bind_assoc]
    have wires : now.Wires ⟨decl.name, decl.params, decl.body, some id, decl.loc⟩ := by
      rintro _ builtin ⟨⟩ isBuiltin
      cases user.symm.trans isBuiltin
    refine .bindFrom (addMethod_leads good orderly later newest new first rfl wires decl.name
      (.tell trivial)) ?_
    rintro _ s1 good1 later1 ⟨size, same⟩
    have impl : (s1.classAt id).implScope = (now.classAt id).implScope := by rw [same]
    have rest := ih good1.orderly later1 size (Nat.le_trans new (Nat.le_of_eq impl.symm))
      (by rw [same]; exact user) others
    rw [impl] at rest
    exact rest

/-- The parent that a declaration names is a class that is there. -/
lemma findParent_leads (good : R.Good s) (decl : Class) :
    R.Leads v Failure.Calm
      (fun parent now => s = now ∧ ∀ p : Nat, parent = some p → p < s.classes.size) s
      (findParent decl why s) := by
  unfold findParent
  cases decl.parent with
  | none => exact .pure good ⟨rfl, nofun⟩
  | some name =>
    refine .ask ?_
    cases found : s.lookupClass? name with
    | none => exact .because good nofun
    | some id =>
      refine .pure good ⟨rfl, fun p same => ?_⟩
      cases same
      exact good.orderly.lookupClass found

/-- A class that has just been declared is bound to its name, before its methods are declared. -/
lemma nameClass_leads (good : R.Good s) {scope : Scope} {classDef : ClassDef}
    (orderly : (s.withClass scope classDef).Orderly R.names)
    (impl : classDef.implScope = s.scopes.size) (name : String) {graph : Graph}
    (course : s.Course { s.withClass scope classDef with graph }) {methods : Eval Unit}
    (rest : ∀ {now : Session}, now.Orderly R.names → s.Later (places R.names v) now →
      s.classes.size + 1 = now.classes.size → now.classAt s.classes.size = classDef →
      R.Leads v Failure.Calm Any s (methods now)) :
    R.Leads v Failure.Calm Any s
      ((Action.declare globalScope name ⟨.classRef s.classes.size, why⟩ >>= fun _ => methods)
        { s.withClass scope classDef with graph }) := by
  have orderly1 : Orderly R.names { s.withClass scope classDef with graph } :=
    orderly.sameStore ⟨rfl, rfl, rfl⟩ orderly.entered orderly.frames
  have grows : s.Grows (places R.names v) (s.withClass scope classDef) :=
    good.orderly.withClass_grows impl
  have later1 : s.Later (places R.names v) { s.withClass scope classDef with graph } :=
    ⟨{ grows with }, ⟨rfl, rfl⟩, course⟩
  have good1 := good.later orderly1 later1
  have size : (s.withClass scope classDef).classes.size = s.classes.size + 1 := Array.size_push ..
  have self : (s.withClass scope classDef).classAt s.classes.size = classDef :=
    (classAt_withClass ..).trans (if_pos rfl)
  have fits : Value.Fits { s.withClass scope classDef with graph } (.classRef s.classes.size) :=
    Nat.lt_of_lt_of_eq (Nat.lt_succ_self _) size.symm
  refine .bindFrom (.of_later good later1
    (.declare good1 orderly1.global (.inl rfl) fits)) ?_
  rintro _ _ good2 later2 rfl
  exact rest good2.orderly later2 size.symm self

/-- A class that is declared without methods at first, with the methods that come after. -/
lemma declareClass_leads (good : R.Good s) (decl : Class)
    (tidy : ∀ id, ∀ method ∈ decl.methods, FunctionDef.Tidy R.names
      ⟨method.name, method.params, method.body, some id, method.loc⟩) :
    R.Leads v Failure.Calm Any s (declareClass decl why s) := by
  unfold declareClass
  refine .bind good (findParent_leads good decl) ?_
  rintro parent _ - - ⟨rfl, older⟩
  let parentDef := parent.map s.classAt
  let classDef : ClassDef :=
    { name := decl.name, parent, fields := decl.fields, implScope := s.scopes.size,
      methods := (parentDef.map ClassDef.methods).getD [], builtin := none,
      nativeBase := parentDef.bind ClassDef.nativeBase }
  let scope : Scope :=
    { parent := some ((parentDef.map ClassDef.implScope).getD globalScope),
      description := decl.name }
  have hangs : (parentDef.map ClassDef.implScope).getD globalScope < s.scopes.size := by
    cases e : parent with
    | none => simpa [parentDef, e] using good.orderly.global.made
    | some p => simpa [parentDef, e] using good.orderly.implScope_lt p (older p e)
  have orderly : (s.withClass scope classDef).Orderly R.names := by
    refine good.orderly.withClass rfl rfl rfl hangs rfl older ?_ nofun fun method => ?_
    · cases e : parent <;> simp [classDef, parentDef, e]
    · cases e : parent <;> simp [classDef, parentDef, e]
  have native (base : Nat) (builds : classDef.nativeBase = some base) : base ≤ s.classes.size := by
    cases e : parent with
    | none => simp [classDef, parentDef, e] at builds
    | some p =>
      simp only [classDef, parentDef, e, Option.map_some, Option.bind_some] at builds
      have lt := older p e
      exact Nat.le_of_lt (Nat.lt_of_le_of_lt (good.orderly.nativeBase_le lt builds) lt)
  have makes : s.Change (s.withClass scope classDef) := .makeClass rfl older native
  refine nameClass_leads good orderly rfl decl.name (.single makes)
    fun orderly1 later size same => ?_
  have new := Nat.le_of_eq (congrArg ClassDef.implScope same).symm
  have methods := declareMethods_leads good orderly1 later size new
    (congrArg ClassDef.builtin same) (tidy s.classes.size)
  rw [same] at methods
  exact methods

/-! ## Work of built-in methods -/

namespace Leads

variable {α : Type} {P : α → Session → Prop} {s' : Session}

/-- Work of the program inside that of a method. -/
lemma lift {a : Eval α} (h : R.Leads v Failure.Calm P s (a s')) :
    R.Leads v NativeFault.Calm P s ((liftM a : Native α) s') := by
  refine h.mapError fun failure calm => ?_
  rintro _ same
  cases same
  exact calm

/-- The work of a method inside that of the program. -/
lemma toEval (className method : String) {a : Native α}
    (h : R.Leads v NativeFault.Calm P s (a s')) :
    R.Leads v Failure.Calm P s (Native.toEval className method why a s') :=
  h.mapError fun _ calm => calm.toFailure className method why

/-- A method that fails by a fault of its own. -/
lemma refuse (good : R.Good s) {fault : NativeFault} (own : fault.IsOwn) :
    R.Leads v NativeFault.Calm P s ((Action.fail fault : Native α) s) :=
  .fail good own.calm

end Leads

section

variable {α : Type} {P : α → Session → Prop} {method : String} {args : List Justified}

/-- A method without arguments runs as it should if what it does does. -/
lemma withNone_leads (good : R.Good s) {body : Native α}
    (h : R.Leads v NativeFault.Calm P s (body s)) :
    R.Leads v NativeFault.Calm P s (Native.withNone method args body s) := by
  cases args with
  | nil => exact h
  | cons => exact .refuse good trivial

/-- A method of one argument runs as it should if what it does with it does. -/
lemma withOne_leads (good : R.Good s) (fit : Justified.AllFit s args) {body : Justified → Native α}
    (h : ∀ arg, arg.value.Fits s → R.Leads v NativeFault.Calm P s (body arg s)) :
    R.Leads v NativeFault.Calm P s (Native.withOne method args body s) := by
  match args with
  | [] => exact .refuse good trivial
  | [arg] => exact h arg (fit arg List.mem_cons_self)
  | _ :: _ :: _ => exact .refuse good trivial

/-- A method of two arguments runs as it should if what it does with them does. -/
lemma withTwo_leads (good : R.Good s) (fit : Justified.AllFit s args)
    {body : Justified → Justified → Native α}
    (h : ∀ first second, first.value.Fits s → second.value.Fits s →
      R.Leads v NativeFault.Calm P s (body first second s)) :
    R.Leads v NativeFault.Calm P s (Native.withTwo method args body s) := by
  match args with
  | [] | [_] => exact .refuse good trivial
  | [first, second] =>
    exact h first second (fit first List.mem_cons_self)
      (fit second (List.mem_cons_of_mem _ List.mem_cons_self))
  | _ :: _ :: _ :: _ => exact .refuse good trivial

end

/-- A built-in constructor makes a handle of its class, in which there is nothing yet, or fails by a
fault of its own; either way it changes nothing. -/
lemma construct_cases (builtin : Builtin) (args : List Justified) (s : Session) :
    (∃ handle, Native.construct builtin args s = .done handle s ∧ handle.builtin = builtin ∧
      ∀ s', handle.Fits s') ∨
    ∃ fault : NativeFault, Native.construct builtin args s = .failed fault s ∧ fault.IsOwn := by
  cases builtin with
  | list =>
    cases args with
    | nil => exact .inl ⟨.list [], rfl, rfl, fun _ => Justified.AllFit.nil⟩
    | cons => exact .inr ⟨_, rfl, trivial⟩
  | dict =>
    cases args with
    | nil => exact .inl ⟨.dict {}, rfl, rfl, fun _ _ none => absurd none List.not_mem_nil⟩
    | cons => exact .inr ⟨_, rfl, trivial⟩
  | string =>
    match args with
    | [] | _ :: _ :: _ => exact .inr ⟨_, rfl, trivial⟩
    | [⟨value, why⟩] =>
      cases value with
      | str => exact .inl ⟨_, rfl, rfl, fun _ => trivial⟩
      | _ => exact .inr ⟨_, rfl, trivial⟩
  | bool =>
    match args with
    | [] | _ :: _ :: _ => exact .inr ⟨_, rfl, trivial⟩
    | [⟨value, why⟩] =>
      cases value with
      | bool => exact .inl ⟨_, rfl, rfl, fun _ => trivial⟩
      | _ => exact .inr ⟨_, rfl, trivial⟩
  | num =>
    match args with
    | [] | _ :: _ :: _ => exact .inr ⟨_, rfl, trivial⟩
    | [⟨value, why⟩] =>
      cases value with
      | int | none => exact .inl ⟨_, rfl, rfl, fun _ => trivial⟩
      | _ => exact .inr ⟨_, rfl, trivial⟩

/-! ## Objects -/

section

variable {className : String} {id : ClassId} {handle : Option Handle} {graph : Graph}
  {bindings : Bindings}

/-- An object that is being made is good as it is if its making may stop there. -/
lemma withObject_good (good : R.Good s) (className : String) (lt : Nat.lt id s.classes.size)
    (course : s.Course { s with graph })
    (bound : ∀ name info, bindings.get? name = some info → info.value.Fits s)
    (fits : ∀ h, handle = some h → h.Fits s) (prepares : s.Prepares id handle bindings) :
    R.Good (s.withObject className id handle graph bindings) ∧
      s.Later (places R.names v) (s.withObject className id handle graph bindings) := by
  let counted : Session := { s with graph, nextObject := s.nextObject + 1 }
  have same : s.SameStore counted := ⟨rfl, rfl, rfl⟩
  have later : s.Later (places R.names v) (s.withObject className id handle graph bindings) := by
    refine ⟨{ withScope_grows counted _ with }, ⟨rfl, rfl⟩, ?_⟩
    have counts := course.tail (.aside s.entered s.calls s.console (s.nextObject + 1))
    exact counts.tail (.makeObject rfl lt (prepares.of_classes rfl))
  have orderly : counted.Orderly R.names :=
    good.orderly.sameStore same good.orderly.entered good.orderly.frames
  have made : (s.withObject className id handle graph bindings).Orderly R.names := by
    refine orderly.withScope rfl orderly.currentScope (fun name info found => ?_) ?_
    · exact (bound name info found).lasting same
    · rintro tag h ⟨⟩ holds
      exact (fits h holds).grows (same.grows : s.Grows (fun _ _ => False) counted)
  exact ⟨good.later made later, later⟩

/-- The scope of a new object is below the current one, with its bindings and its tag. -/
lemma scopeAt_withObject :
    (s.withObject className id handle graph bindings).scopes.scopeAt s.scopes.size =
      { parent := some s.currentScope, description := s!"{className}@{s.nextObject}",
        tag := some ⟨s.nextObject, id, handle⟩, bindings } :=
  (scopeAt_withScope ..).trans (if_pos rfl)

/-- A new object has its class and its state. -/
lemma kind_withObject : (s.withObject className id handle graph bindings).kind? s.scopes.size =
    some (id, handle.map Handle.builtin) := by
  rw [kind?, scopeAt_withObject]
  rfl

/-- A member of a new object is declared, unless there is one of this name. -/
lemma declare_withObject (name : String) (info : Justified) :
    Action.declare s.scopes.size name info (s.withObject className id handle graph bindings) =
      if bindings.contains name then
        .failed (.of (.duplicateDeclaration name s!"{className}@{s.nextObject}"))
          (s.withObject className id handle graph bindings)
      else .done () (s.withObject className id handle graph (bindings.insert name info)) := by
  simp only [Action.declare, Scopes.declare, Scopes.binds, Scopes.description, scopeAt_withObject]
  cases bindings.contains name with
  | true => rfl
  | false =>
    simp only [Bool.false_eq_true, if_false, Scopes.bind, withObject, withScope,
      Scopes.update_push]

/-- A new object gets the state that its class asks for, or its making stops there. -/
lemma attachHandle_cases (className : String) (id : ClassId) (args : List Justified)
    (why : ReasonId) :
    (∃ handle, attachHandle s.scopes.size className (s.nativeBuiltin? id) args why
        (s.withObject className id none s.graph []) =
          .done () (s.withObject className id handle s.graph []) ∧
      handle.map Handle.builtin = s.nativeBuiltin? id ∧ ∀ h, handle = some h → h.Fits s) ∨
    ∃ failure, attachHandle s.scopes.size className (s.nativeBuiltin? id) args why
        (s.withObject className id none s.graph []) =
          .failed failure (s.withObject className id none s.graph []) ∧
      failure.Calm ∧ s.nativeBuiltin? id ≠ none := by
  cases s.nativeBuiltin? id with
  | none => exact .inl ⟨none, rfl, rfl, nofun⟩
  | some builtin =>
    simp only [attachHandle, Bind.bind, Native.toEval, Action.mapError]
    obtain ⟨handle, made, rfl, fits⟩ | ⟨fault, fails, own⟩ :=
      construct_cases builtin args (s.withObject className id none s.graph [])
    · refine .inl ⟨some handle, ?_, rfl, fun h same => Option.some.inj same ▸ fits s⟩
      rw [made]
      simp only [Action.setHandle, Action.change, withObject, withScope, Scopes.update_push]
      rfl
    · exact .inr ⟨_, by simp only [fails]; rfl, own.calm.toFailure _ _ _, Option.some_ne_none _⟩

variable (className id handle graph bindings) in
/-- Fields are declared for an object that is being made, until one that it has already. -/
lemma declareFields_cases (course : s.Course { s with graph }) (fields : List String) :
    ∃ graph' bindings', s.Course { s with graph := graph' } ∧
      (∀ name info, bindings'.get? name = some info →
        bindings.get? name = some info ∨ info.value = .none) ∧
      ((declareFields s.scopes.size fields (s.withObject className id handle graph bindings) =
            .done () (s.withObject className id handle graph' bindings') ∧ fields.Nodup ∧
          (∀ field ∈ fields, bindings.contains field = false) ∧
          ∀ name, bindings'.contains name = (decide (name ∈ fields) || bindings.contains name)) ∨
        ∃ failure, declareFields s.scopes.size fields
            (s.withObject className id handle graph bindings) =
              .failed failure (s.withObject className id handle graph' bindings') ∧
          failure.Calm ∧ ((∀ field ∈ fields, bindings.contains field = false) → ¬ fields.Nodup)) := by
  induction fields generalizing graph bindings with
  | nil =>
    refine ⟨graph, bindings, course, fun _ _ => .inl, .inl ⟨rfl, .nil, nofun, fun name => ?_⟩⟩
    rw [decide_eq_false List.not_mem_nil, Bool.false_or]
  | cons field rest ih =>
    let told := graph.push (.text "The default value for a member variable is None") [] none
    have tells : s.Course { s with graph := told } := course.tail (.tell trivial)
    have step : declareFields s.scopes.size (field :: rest)
        (s.withObject className id handle graph bindings) =
      (Action.declare s.scopes.size field (.none graph.size) >>= fun _ =>
        declareFields s.scopes.size rest) (s.withObject className id handle told bindings) := rfl
    simp only [step, Bind.bind, declare_withObject]
    -- The induction is on the fields. A field that is not there yet is added to the bindings, so
    -- that what is said of the others is said of longer bindings.
    cases known : bindings.contains field with
    | true =>
      refine ⟨told, bindings, tells, fun _ _ => .inl,
        .inr ⟨_, rfl, .duplicate _ _, fun fresh => ?_⟩⟩
      cases known.symm.trans (fresh field List.mem_cons_self)
    | false =>
      let bound := bindings.insert field (.none graph.size)
      have contains (name : String) : bound.contains name =
          (decide (name = field) || bindings.contains name) := Assoc.contains_insert ..
      obtain ⟨graph', bindings', course', values, ended⟩ := ih told bound tells
      refine ⟨graph', bindings', course', fun name info found => ?_, ?_⟩
      · refine (values name info found).elim (fun old => ?_) .inr
        rw [Assoc.get?_insert] at old
        split at old
        · cases old
          exact .inr rfl
        · exact .inl old
      obtain ⟨done, nodup, fresh, all⟩ | ⟨failure, fails, calm, twice⟩ := ended
      · have free (other : String) (mem : other ∈ rest) :
            other ≠ field ∧ bindings.contains other = false := by
          have := fresh other mem
          rw [contains, Bool.or_eq_false_iff] at this
          exact ⟨of_decide_eq_false this.1, this.2⟩
        refine .inl ⟨done, List.nodup_cons.2 ⟨fun mem => (free field mem).1 rfl, nodup⟩, ?_, ?_⟩
        · exact List.forall_mem_cons.2 ⟨known, fun other mem => (free other mem).2⟩
        · intro name
          rw [all, contains]
          simp only [List.mem_cons, Bool.decide_or, Bool.or_assoc, Bool.or_left_comm]
      · refine .inr ⟨failure, fails, calm, fun fresh nodup => ?_⟩
        obtain ⟨new, nodup⟩ := List.nodup_cons.1 nodup
        refine twice (fun other mem => ?_) nodup
        have differs : other ≠ field := fun same => new (same ▸ mem)
        rw [contains, fresh other (List.mem_cons_of_mem _ mem), Bool.or_false]
        exact decide_eq_false differs

end

/-- The properties of an object are declared, and its class is recorded among them. -/
lemma prepare_leads (good : R.Good s) (className : String) {id : ClassId}
    (lt : Nat.lt id s.classes.size) {handle : Option Handle}
    (kind : handle.map Handle.builtin = s.nativeBuiltin? id)
    (fits : ∀ h, handle = some h → h.Fits s) (fields : List String)
    (distinct : s.Constructs id → (fields ++ [classField]).Nodup) :
    R.Leads v Failure.Calm
      (fun _ now => now.kind? s.scopes.size = some (id, s.nativeBuiltin? id) ∧
        ∃ why, now.scopes.local? s.scopes.size classField = some ⟨.classRef id, why⟩) s
      ((declareFields s.scopes.size fields >>= fun _ => tagClass s.scopes.size id)
        (s.withObject className id handle s.graph [])) := by
  obtain ⟨graph, bindings, course, values, ended⟩ :=
    declareFields_cases (s := s) className id handle s.graph [] .refl fields
  have none_fits (name : String) (info : Justified) (found : bindings.get? name = some info) :
      info.value.Fits s := by
    rw [(values name info found).resolve_left nofun]
    trivial
  obtain ⟨done, nodup, -, all⟩ | ⟨failure, fails, calm, twice⟩ := ended
  · let told := graph.push (.text "This is the class of the object") [] none
    have tells : s.Course { s with graph := told } := course.tail (.tell trivial)
    have step : ((declareFields s.scopes.size fields >>= fun _ => tagClass s.scopes.size id)
        (s.withObject className id handle s.graph [])) =
      Action.declare s.scopes.size classField ⟨.classRef id, graph.size⟩
        (s.withObject className id handle told bindings) := by
      simp only [Bind.bind, done]
      rfl
    rw [step, declare_withObject]
    cases known : bindings.contains classField with
    | true =>
      -- The property that records the class is one of the fields.
      have among : classField ∈ fields := by
        have either := (all classField).symm.trans known
        rw [Bool.or_eq_true] at either
        exact of_decide_eq_true (either.resolve_right nofun)
      have prepares : s.Prepares id handle bindings := fun _ constructs =>
        absurd rfl ((List.nodup_append.1 (distinct constructs)).2.2 _ among _ List.mem_cons_self)
      have made := withObject_good (v := v) good className lt tells none_fits fits prepares
      exact .failed made.1 made.2 (.duplicate _ _)
    | false =>
      have prepares : s.Prepares id handle
          (bindings.insert classField ⟨.classRef id, graph.size⟩) :=
        fun _ _ => ⟨_, by rw [Assoc.get?_insert, if_pos rfl]⟩
      have made := withObject_good (v := v) good className lt tells (fun name info found => by
        rw [Assoc.get?_insert] at found
        split at found
        · cases found
          exact lt
        · exact none_fits name info found) fits prepares
      refine .done made.1 made.2 ⟨kind ▸ kind_withObject, graph.size, ?_⟩
      rw [Scopes.local?, scopeAt_withObject, Assoc.get?_insert, if_pos rfl]
  · have prepares : s.Prepares id handle bindings := fun _ constructs =>
      absurd (List.nodup_append.1 (distinct constructs)).1 (twice fun _ _ => rfl)
    have made := withObject_good (v := v) good className lt course none_fits fits prepares
    simp only [Bind.bind, fails]
    exact .failed made.1 made.2 calm

/-- The constructor of a class is called on an object of the class. -/
lemma runConstructor_leads (h : inner.Regular R) (good : R.Good s) {object : ScopeId}
    (known : (Value.object object).Fits s) {id : ClassId}
    (ofClass : s.classOf? (.object object) = some id) {args : List Justified}
    (fit : Justified.AllFit s args) (nativeBacked : Bool) :
    R.Leads [] Failure.Calm Any s (runConstructor inner object id args nativeBacked why s) := by
  unfold runConstructor
  refine .ask ?_
  cases found : (s.classAt id).methods.get? initName with
  | none =>
    cases args with
    | nil => exact .pure good trivial
    | cons arg rest =>
      cases nativeBacked with
      | true => exact .pure good trivial
      | false =>
        -- There are arguments, and none are needed.
        refine .fail good fun idle => ?_
        obtain ⟨-, -, none⟩ := Fault.arityMismatch.inj idle
        cases none
  | some init =>
    refine .bind good (.text good _) fun specified s1 good1 later _ => ?_
    have lt := (good.orderly.method_owner (class_lt_of_fits known ofClass) found).1
    have all : Justified.AllFit s (⟨.object object, specified⟩ :: args) := .cons known fit
    have receives := (good.orderly.receives known ofClass found specified args).grows lt all
      good.orderly.rooted good1.orderly.rooted later.grows
    refine .bind good1 (h.call why good1 (Nat.lt_of_lt_of_le lt later.grows.functions)
      (all.grows later.grows) (R.receives good1.orderly good1.holds (all.grows later.grows)
        receives)) fun result s2 good2 _ _ => ?_
    exact .pure good2 trivial

/-- The constructor of a class is called when an object of it has been prepared. -/
lemma constructUser_eq (className : String) (id : ClassId) (handle : Option Handle)
    (args : List Justified) (nativeBacked : Bool) :
    constructUser inner s.scopes.size id args nativeBacked why
        (s.withObject className id handle s.graph []) =
      ((declareFields s.scopes.size (s.allFields id) >>= fun _ => tagClass s.scopes.size id) >>=
        fun _ => runConstructor inner s.scopes.size id args nativeBacked why)
          (s.withObject className id handle s.graph []) := by
  have fields : (s.withObject className id handle s.graph []).allFields id = s.allFields id :=
    allFields_congr rfl
  rw [Action.bind_assoc, ← fields]
  rfl

/-- A new object of a class that a program declares is constructed as one of its class. -/
lemma constructUser_leads (h : inner.Regular R) (good : R.Good s) (className : String)
    {id : ClassId} (lt : Nat.lt id s.classes.size) {handle : Option Handle}
    (kind : handle.map Handle.builtin = s.nativeBuiltin? id)
    (fits : ∀ h, handle = some h → h.Fits s) {args : List Justified}
    (fit : Justified.AllFit s args) (user : (s.classAt id).builtin.isSome = false)
    (nativeBacked : Bool) :
    R.Leads [] Failure.Calm
      (fun _ now => now.kind? s.scopes.size = some (id, s.nativeBuiltin? id)) s
      (constructUser inner s.scopes.size id args nativeBacked why
        (s.withObject className id handle s.graph [])) := by
  rw [constructUser_eq]
  have distinct (constructs : s.Constructs id) : (s.allFields id ++ [classField]).Nodup :=
    constructs.resolve_left (Bool.eq_false_iff.1 user)
  refine .bindFrom (prepare_leads good className lt kind fits _ distinct) ?_
  rintro - s1 good1 later1 ⟨kind, -⟩
  have known : (Value.object s.scopes.size).Fits s1 := by
    refine ⟨id, Nat.lt_of_lt_of_le lt later1.grows.classes, ?_⟩
    rw [kind, later1.grows.native id lt]
  have ran : R.Leads [] Failure.Calm Any s1
      (runConstructor inner s.scopes.size id args nativeBacked why s1) :=
    runConstructor_leads h good1 known (classOf_of_kind kind) (fit.grows later1.grows) nativeBacked
  refine .of_later good later1 (ran.weaken fun _ later2 _ => ?_)
  rw [later2.grows.kind _ (made_of_kind kind), kind]

/-- A new object is of its class before anything else happens to it. -/
lemma newObject_eq {className : String} {id : ClassId} (args : List Justified)
    (found : s.lookupClass? className = some id) :
    newObject inner className args why s =
      (attachHandle s.scopes.size className (s.nativeBuiltin? id) args why >>= fun _ => do
        let classDef ← Action.ask (·.classAt id)
        if classDef.builtin.isSome then tagClass s.scopes.size id
        else constructUser inner s.scopes.size id args (s.nativeBuiltin? id).isSome why
        describeNew s.scopes.size className args why)
          (s.withObject className id none s.graph []) := by
  simp only [newObject, Bind.bind, Action.ask, found, Action.newObjectNumber, Action.currentScope,
    Action.newScope, Action.setTag, Action.change, Scopes.child, Scopes.update_push]
  rfl

/-- The text and the reason of a new object are made when it is complete. -/
lemma describeNew_builds {now : Session} (good : R.Good now) {id : ClassId}
    (later : s.Later (places R.names v) now) {className : String}
    (found : s.lookupClass? className = some id) (lt : Nat.lt id s.classes.size)
    (kind : now.kind? s.scopes.size = some (id, s.nativeBuiltin? id)) (args : List Justified) :
    R.Leads v Failure.Calm (fun info now' => s.Builds className info now') now
      (describeNew s.scopes.size className args why now) := by
  refine .ask (.bind good (.conj good ..) fun described s1 good1 later1 _ => .pure good1 ?_)
  have lt1 := Nat.lt_of_lt_of_le lt later.grows.classes
  refine ⟨id, found, Nat.lt_of_lt_of_le lt1 later1.grows.classes, rfl, ?_⟩
  rw [later1.grows.kind _ (made_of_kind kind), kind, later1.grows.native id lt1,
    later.grows.native id lt]

/-- A new object is one of the class that its name means when it is asked for. -/
lemma newObject_builds (h : inner.Regular R) (good : R.Good s) (className : String)
    {args : List Justified} (fit : Justified.AllFit s args) :
    R.Leads [] Failure.Calm (fun info now => s.Builds className info now) s
      (newObject inner className args why s) := by
  cases found : s.lookupClass? className with
  | none =>
    simp only [newObject, Bind.bind, Action.ask, found]
    exact .because good nofun
  | some id =>
    have lt := good.orderly.lookupClass found
    rw [newObject_eq args found]
    obtain ⟨handle, attached, kind, fits⟩ | ⟨failure, fails, calm, backed⟩ :=
      attachHandle_cases (s := s) className id args why
    · simp only [Bind.bind, attached]
      change R.Leads [] Failure.Calm _ s
        ((if (s.classAt id).builtin.isSome then
            tagClass s.scopes.size id >>= fun _ => describeNew s.scopes.size className args why
          else constructUser inner s.scopes.size id args (s.nativeBuiltin? id).isSome why >>= fun _ =>
            describeNew s.scopes.size className args why)
          (s.withObject className id handle s.graph []))
      cases user : (s.classAt id).builtin.isSome with
      | true =>
        have prepared := prepare_leads (v := []) good className lt kind fits []
          fun _ => by simp
        exact .bind good prepared fun _ s1 good1 later ⟨kind1, _⟩ =>
          describeNew_builds good1 later found lt kind1 args
      | false =>
        exact .bind good (constructUser_leads h good className lt kind fits fit user _)
          fun _ s1 good1 later kind1 => describeNew_builds good1 later found lt kind1 args
    · -- The state is missing, so that nothing is asked of the object.
      have prepares : s.Prepares id none [] := fun complete => absurd complete.symm backed
      have stopped := withObject_good (v := []) good className lt .refl (by nofun) (by nofun)
        prepares
      simp only [Bind.bind, fails]
      exact .failed stopped.1 stopped.2 calm

/-- An object that is made fits. -/
lemma newObject_leads (h : inner.Regular R) (good : R.Good s) (className : String)
    {args : List Justified} (fit : Justified.AllFit s args) :
    R.Leads [] Failure.Calm Fitting s (newObject inner className args why s) :=
  (newObject_builds h good className fit).weaken fun _ _ built => built.fits

/-- An object whose reason is hidden is one of its class. -/
lemma newHiddenObject_builds (h : inner.Regular R) (good : R.Good s) (className : String)
    {args : List Justified} (fit : Justified.AllFit s args) :
    R.Leads [] Failure.Calm (fun info now => s.Builds className info now) s
      (newHiddenObject inner className args why s) := by
  refine .bind good (newObject_builds h good className fit) fun result s1 good1 _ built => ?_
  refine .bind good1 (.hide good1 _) fun _ s2 good2 later _ => .pure good2 ?_
  obtain ⟨id, found, lt, value, kind⟩ := built
  refine ⟨id, found, Nat.lt_of_lt_of_le lt later.grows.classes, value, ?_⟩
  rw [later.grows.kind _ (made_of_kind kind), kind, later.grows.native id lt]

/-- An object whose reason is hidden fits. -/
lemma newHiddenObject_leads (h : inner.Regular R) (good : R.Good s) (className : String)
    {args : List Justified} (fit : Justified.AllFit s args) :
    R.Leads [] Failure.Calm Fitting s (newHiddenObject inner className args why s) :=
  (newHiddenObject_builds h good className fit).weaken fun _ _ built => built.fits

end Regime

end Because
