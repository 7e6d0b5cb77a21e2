import Because.Proofs.Graph.Growth
import Because.Proofs.Orderly.Run
import Mathlib.Data.List.Induction

/-!
# What constructors find

A new object of a class that a program declares gets its state, its fields and the record of its
class before its constructor is called. The fields are those of all classes above it, the topmost
class first, and each of them is None. If a field cannot be declared, because the object has one of
that name, the making of the object ends there; and before anything is declared, it ends if the
built-in class above refuses the arguments. In neither case has anything been called.
-/

namespace Because

/-- In a longer table what comes first is found first. -/
lemma Assoc.get?_append {κ α : Type} [DecidableEq κ] (entries others : Assoc κ α) (key : κ) :
    Assoc.get? (entries ++ others) key = (entries.get? key).or (others.get? key) := by
  induction entries with
  | nil => rfl
  | cons entry rest ih =>
    obtain ⟨known, old⟩ := entry
    rw [List.cons_append, get?, get?]
    split
    · rfl
    · exact ih

/-- A longer table contains what either part contains. -/
lemma Assoc.contains_append {κ α : Type} [DecidableEq κ] (entries others : Assoc κ α) (key : κ) :
    Assoc.contains (entries ++ others) key = (entries.contains key || others.contains key) := by
  rw [contains, get?_append, Option.isSome_or, ← contains, ← contains]

/-- A list in which something occurs twice has a first place at which it does. -/
lemma exists_first_repeated {α : Type} {names : List α} (twice : ¬ names.Nodup) :
    ∃ before name after, names = before ++ name :: after ∧ before.Nodup ∧ name ∈ before := by
  induction names using List.reverseRecOn with
  | nil => exact absurd .nil twice
  | append_singleton names last ih =>
    by_cases distinct : names.Nodup
    · refine ⟨names, last, [], rfl, distinct, ?_⟩
      by_contra new
      refine twice (List.nodup_append.2 ⟨distinct, List.pairwise_singleton .., ?_⟩)
      exact fun a mem b isLast same => new (List.mem_singleton.1 isLast ▸ same ▸ mem)
    · obtain ⟨before, name, after, rfl, first, again⟩ := ih distinct
      exact ⟨before, name, after ++ [last], by simp, first, again⟩

/-- What follows two actions that end alike goes on alike. -/
lemma Action.bind_congr {ε α β : Type} {a b : Action ε α} {s : Session} (same : a s = b s)
    {f : α → Action ε β} : (a >>= f) s = (b >>= f) s := by
  simp only [Bind.bind, same]

/-! ## The fields of a class -/

namespace Session

variable {s : Session} {id : ClassId}

/-- The fields that a class and the classes above it declare: those of the topmost class come first,
and those of one class in the order in which it declares them. -/
inductive FieldsOf (s : Session) : ClassId → List String → Prop where
  | topmost {id : ClassId} : (s.classAt id).parent = none → FieldsOf s id (s.classAt id).fields
  | derived {id p : ClassId} {inherited : List String} : (s.classAt id).parent = some p →
    FieldsOf s p inherited → FieldsOf s id (inherited ++ (s.classAt id).fields)

/-- A class has its fields in one order only. -/
lemma FieldsOf.unique {fields others : List String} (h : s.FieldsOf id fields)
    (h' : s.FieldsOf id others) : fields = others := by
  induction h generalizing others with
  | topmost none =>
    cases h' with
    | topmost => rfl
    | derived parent => cases none.symm.trans parent
  | derived parent _ ih =>
    cases h' with
    | topmost none => cases none.symm.trans parent
    | derived parent' above =>
      cases parent.symm.trans parent'
      rw [ih above]

/-- A new object has the fields of its class and of all classes above it. -/
lemma Rooted.fieldsOf (h : s.Rooted) (id : ClassId) : s.FieldsOf id (s.allFields id) := by
  induction id using h.class_induction with
  | step id ih =>
    have lineage := h.lineage_eq id
    cases parent : (s.classAt id).parent with
    | none =>
      have fields : s.allFields id = (s.classAt id).fields := by
        rw [allFields, lineage, parent]
        exact List.append_nil _
      rw [fields]
      exact .topmost parent
    | some p =>
      have fields : s.allFields id = s.allFields p ++ (s.classAt id).fields := by
        rw [allFields, lineage, parent, List.reverse_cons, List.flatMap_append,
          List.flatMap_singleton, ← allFields]
      rw [fields]
      exact .derived parent (ih p parent)

end Session

/-! ## Declaring fields -/

/-- Fields that are None, for one reason after the other. -/
def emptyFields : ReasonId → List String → Bindings
  | _, [] => []
  | why, field :: rest => (field, .none why) :: emptyFields (why + 1) rest

/-- The graph with one more reason for each field to be None. -/
def Graph.tellFields (g : Graph) : List String → Graph
  | [] => g
  | _ :: rest =>
    (g.push (.text "The default value for a member variable is None") [] none).tellFields rest

/-- Exactly the given names are bound to None. -/
lemma emptyFields_contains (why : ReasonId) (fields : List String) (name : String) :
    Assoc.contains (emptyFields why fields) name = decide (name ∈ fields) := by
  induction fields generalizing why with
  | nil => rfl
  | cons field rest ih =>
    have rest := ih (why + 1)
    rw [Assoc.contains] at rest
    rw [Assoc.contains, emptyFields, Assoc.get?]
    by_cases here : field = name
    · simp [here]
    · simp [if_neg here, rest, Ne.symm here]

/-- Fields can be told one part after the other. -/
lemma Graph.tellFields_append (g : Graph) (fields others : List String) :
    g.tellFields (fields ++ others) = (g.tellFields fields).tellFields others := by
  induction fields generalizing g with
  | nil => rfl
  | cons field rest ih => exact ih _

/-- Each field takes one reason. -/
lemma Graph.size_tellFields (g : Graph) (fields : List String) :
    (g.tellFields fields).size = g.size + fields.length := by
  induction fields generalizing g with
  | nil => rfl
  | cons field rest ih =>
    rw [tellFields, ih, size_push, List.length_cons]
    omega

/-- Telling fields only adds reasons. -/
lemma Graph.tellFields_grows (g : Graph) (fields : List String) : g.Grows (g.tellFields fields) := by
  induction fields generalizing g with
  | nil => exact .refl g
  | cons field rest ih => exact (Graph.Grows.push ..).trans (ih _)

/-- Telling fields keeps a graph ordered. -/
lemma Graph.Ordered.tellFields {g : Graph} (h : g.Ordered) (fields : List String) :
    (g.tellFields fields).Ordered := by
  induction fields generalizing g with
  | nil => exact h
  | cons field rest ih => exact ih (h.tell _)

namespace Session

variable {s : Session} {className : String} {id : ClassId} {handle : Option Handle} {graph : Graph}
  {bindings : Bindings} {fields : List String}

variable (s className id handle graph bindings) in
/-- Fields that the object does not have yet are declared in their order. -/
lemma declareFields_done (distinct : fields.Nodup)
    (fresh : ∀ field ∈ fields, bindings.contains field = false) :
    declareFields s.scopes.size fields (s.withObject className id handle graph bindings) =
      .done () (s.withObject className id handle (graph.tellFields fields)
        (bindings ++ emptyFields graph.size fields)) := by
  induction fields generalizing graph bindings with
  | nil => rw [emptyFields, List.append_nil]; rfl
  | cons field rest ih =>
    obtain ⟨new, distinct⟩ := List.nodup_cons.1 distinct
    obtain ⟨absent, others⟩ := List.forall_mem_cons.1 fresh
    let told := graph.push (.text "The default value for a member variable is None") [] none
    have step : declareFields s.scopes.size (field :: rest)
        (s.withObject className id handle graph bindings) =
      (Action.declare s.scopes.size field (.none graph.size) >>= fun _ =>
        declareFields s.scopes.size rest) (s.withObject className id handle told bindings) := rfl
    have free : ∀ other ∈ rest, Assoc.contains (bindings ++ [(field, Justified.none graph.size)])
        other = false := by
      intro other mem
      have differs : field ≠ other := fun same => new (same ▸ mem)
      rw [Assoc.contains_append, others other mem]
      simp [Assoc.contains, Assoc.get?, differs]
    rw [step]
    simp only [Bind.bind, Regime.declare_withObject, absent, Bool.false_eq_true, if_false,
      Assoc.insert_of_absent absent]
    rw [ih _ _ distinct free, Graph.size_push, List.append_assoc]
    rfl

/-- Fields can be declared one part after the other. -/
lemma declareFields_append (object : ScopeId) (fields others : List String) (now : Session) :
    declareFields object (fields ++ others) now =
      (declareFields object fields >>= fun _ => declareFields object others) now := by
  induction fields generalizing now with
  | nil => rfl
  | cons field rest ih =>
    simp only [List.cons_append, declareFields, Bind.bind, Action.text]
    cases Action.declare object field _ _ with
    | done _ now' => exact ih now'
    | failed | exhausted => rfl

variable (s className id handle graph) in
/-- The first field that the object has already is not declared, and then nothing else is. -/
lemma declareFields_stops {before after : List String} {name : String} (distinct : before.Nodup)
    (again : name ∈ before) :
    declareFields s.scopes.size (before ++ name :: after)
        (s.withObject className id handle graph []) =
      .failed (.of (.duplicateDeclaration name s!"{className}@{s.nextObject}"))
        (s.withObject className id handle (graph.tellFields (before ++ [name]))
          (emptyFields graph.size before)) := by
  have first := declareFields_done s className id handle graph [] distinct fun _ _ => rfl
  have known : Assoc.contains (emptyFields graph.size before) name = true :=
    (emptyFields_contains ..).trans (decide_eq_true again)
  have step (told : Graph) : declareFields s.scopes.size (name :: after)
      (s.withObject className id handle told (emptyFields graph.size before)) =
    (Action.declare s.scopes.size name (.none told.size) >>= fun _ =>
      declareFields s.scopes.size after) (s.withObject className id handle (told.tellFields [name])
        (emptyFields graph.size before)) := rfl
  rw [declareFields_append]
  simp only [Bind.bind, first, List.nil_append, step, Regime.declare_withObject, known, if_true,
    Graph.tellFields_append]

/-! ## Objects that are about to get to their constructor -/

/-- The session with one more object, which has its state, its fields and the record of its
class. -/
def furnished (s : Session) (className : String) (id : ClassId) (handle : Option Handle) :
    Session :=
  s.withObject className id handle
    ((s.graph.tellFields (s.allFields id)).push (.text "This is the class of the object") [] none)
    (emptyFields s.graph.size (s.allFields id) ++
      [(classField, ⟨.classRef id, s.graph.size + (s.allFields id).length⟩)])

variable (s className id handle) in
/-- Furnishing an object only adds reasons. -/
lemma furnished_grows : s.graph.Grows (s.furnished className id handle).graph :=
  (Graph.tellFields_grows ..).trans (.push ..)

/-- Furnishing an object keeps the graph ordered. -/
lemma furnished_ordered (ordered : s.graph.Ordered) :
    (s.furnished className id handle).graph.Ordered :=
  (ordered.tellFields _).tell _

/-- What is done to an object before its constructor is called. -/
def prepare (s : Session) (id : ClassId) : Eval Unit :=
  declareFields s.scopes.size (s.allFields id) >>= fun _ => tagClass s.scopes.size id

/-- Recording the class of a new object declares it as a variable of the object. -/
lemma tagClass_withObject (graph : Graph) (bindings : Bindings) :
    tagClass s.scopes.size id (s.withObject className id handle graph bindings) =
      Action.declare s.scopes.size classField ⟨.classRef id, graph.size⟩
        (s.withObject className id handle
          (graph.push (.text "This is the class of the object") [] none) bindings) := rfl

/-- If all fields and the record of the class have different names, a new object gets them all. -/
lemma prepare_done (distinct : (s.allFields id ++ [classField]).Nodup) :
    s.prepare id (s.withObject className id handle s.graph []) =
      .done () (s.furnished className id handle) := by
  obtain ⟨fields, -, apart⟩ := List.nodup_append.1 distinct
  have declared := declareFields_done s className id handle s.graph [] fields fun _ _ => rfl
  have free : Assoc.contains (emptyFields s.graph.size (s.allFields id)) classField = false := by
    rw [emptyFields_contains]
    exact decide_eq_false fun mem => apart _ mem _ List.mem_cons_self rfl
  simp only [prepare, Bind.bind, declared, List.nil_append, tagClass_withObject,
    Regime.declare_withObject, free, Bool.false_eq_true, if_false, Assoc.insert_of_absent free,
    Graph.size_tellFields]
  rfl

/-- The first name that is there already is not declared, and then nothing else is. -/
lemma prepare_stops_at (className : String) (handle : Option Handle) {before after : List String}
    {name : String}
    (split : s.allFields id ++ [classField] = before ++ name :: after) (distinct : before.Nodup)
    (again : name ∈ before) :
    ∃ graph, s.prepare id (s.withObject className id handle s.graph []) =
      .failed (.of (.duplicateDeclaration name s!"{className}@{s.nextObject}"))
        (s.withObject className id handle graph (emptyFields s.graph.size before)) := by
  obtain rfl | ⟨rest, last, rfl⟩ := List.eq_nil_or_concat after
  · -- All fields have been declared, and the name is that of the record of the class.
    obtain ⟨rfl, isClass⟩ := List.append_inj' split rfl
    obtain rfl := List.singleton_inj.1 isClass
    have declared := declareFields_done s className id handle s.graph [] distinct fun _ _ => rfl
    have known : Assoc.contains (emptyFields s.graph.size (s.allFields id)) classField = true :=
      (emptyFields_contains ..).trans (decide_eq_true again)
    refine ⟨(s.graph.tellFields (s.allFields id)).push (.text "This is the class of the object") []
      none, ?_⟩
    simp only [prepare, Bind.bind, declared, List.nil_append, tagClass_withObject,
      Regime.declare_withObject, known, if_true]
  · rw [List.concat_eq_append, ← List.cons_append, ← List.append_assoc] at split
    have fields := (List.append_inj' split rfl).1
    refine ⟨s.graph.tellFields (before ++ [name]), ?_⟩
    rw [prepare, fields]
    exact Action.bind_failed (declareFields_stops s className id handle s.graph distinct again)

/-! ## The state that built-in constructors make -/

/-- A built-in constructor looks at nothing but its arguments. -/
lemma construct_settled (builtin : Builtin) (args : List Justified) :
    ∃ result, Native.construct builtin args = Action.ofExcept result ∧
      ∀ handle, result = .ok handle → handle.builtin = builtin := by
  have settled : ∃ result, Native.construct builtin args = Action.ofExcept result := by
    cases builtin with
    | list | dict =>
      cases args with
      | nil => exact ⟨.ok _, rfl⟩
      | cons => exact ⟨.error _, rfl⟩
    | string | bool | num =>
      match args with
      | [] | _ :: _ :: _ => exact ⟨.error _, rfl⟩
      | [⟨value, _⟩] => cases value <;> first | exact ⟨.ok _, rfl⟩ | exact ⟨.error _, rfl⟩
  obtain ⟨result, settled⟩ := settled
  refine ⟨result, settled, ?_⟩
  rintro handle rfl
  obtain ⟨made, makes, ofClass, -⟩ | ⟨fault, fails, -⟩ :=
    Regime.construct_cases builtin args default
  · rw [settled] at makes
    cases makes
    exact ofClass
  · rw [settled] at fails
    cases fails

/-- The state of a new object of a class: none, unless there is a built-in class above, which then
makes it from the arguments. -/
inductive Takes (s : Session) (id : ClassId) (args : List Justified) : Option Handle → Prop where
  | plain : s.nativeBuiltin? id = none → Takes s id args none
  | backed {builtin : Builtin} {handle : Handle} : s.nativeBuiltin? id = some builtin →
    handle.builtin = builtin → Native.construct builtin args = Action.ofExcept (.ok handle) →
    Takes s id args (some handle)

/-- The built-in class above a class refuses the arguments. -/
def Refuses (s : Session) (id : ClassId) (args : List Justified) (fault : NativeFault) : Prop :=
  ∃ builtin, s.nativeBuiltin? id = some builtin ∧
    Native.construct builtin args = Action.ofExcept (.error fault)

/-- A built-in class above, if there is one, either makes a state or refuses the arguments. -/
lemma takes_or_refuses (s : Session) (id : ClassId) (args : List Justified) :
    (∃ handle, s.Takes id args handle) ∨ ∃ fault, s.Refuses id args fault := by
  cases native : s.nativeBuiltin? id with
  | none => exact .inl ⟨none, .plain native⟩
  | some builtin =>
    obtain ⟨result, settled, made⟩ := construct_settled builtin args
    cases result with
    | ok handle => exact .inl ⟨some handle, .backed native (made handle rfl) settled⟩
    | error fault => exact .inr ⟨fault, builtin, native, settled⟩

/-- A state that can be made is given to the object. -/
lemma Takes.attached {args : List Justified} (takes : s.Takes id args handle) (className : String)
    (why : ReasonId) :
    attachHandle s.scopes.size className (s.nativeBuiltin? id) args why
        (s.withObject className id none s.graph []) =
      .done () (s.withObject className id handle s.graph []) := by
  cases takes with
  | plain none =>
    rw [none]
    rfl
  | backed native _ made =>
    rw [native]
    simp only [attachHandle, Bind.bind, Native.toEval, Action.mapError, made, Action.ofExcept,
      Action.setHandle, Action.change, withObject, withScope, Scopes.update_push]
    rfl

/-- If the arguments are refused, the object gets no state. -/
lemma Refuses.unattached {args : List Justified} {fault : NativeFault}
    (refuses : s.Refuses id args fault) (className : String) (why : ReasonId) :
    attachHandle s.scopes.size className (s.nativeBuiltin? id) args why
        (s.withObject className id none s.graph []) =
      .failed ((fault.toFailure className "new").orReason why)
        (s.withObject className id none s.graph []) := by
  obtain ⟨builtin, native, refused⟩ := refuses
  rw [native]
  simp only [attachHandle, Bind.bind, Native.toEval, Action.mapError, refused, Action.ofExcept]

/-! ## Making objects -/

/-- The session in which the constructor of a new object is called. -/
def atConstructor (s : Session) (className : String) (id : ClassId) (handle : Option Handle) :
    Session :=
  let furnished := s.furnished className id handle
  { furnished with
    graph := furnished.graph.push (.text s!"my program specified a {(s.classAt id).name}") [] none }

/-- What an object is when its constructor is called: it binds the fields of its class and of all
classes above it, which are None, and its class, and nothing else; its tag has its class and its
state; and no other scope has changed. -/
structure Ready (s : Session) (id : ClassId) (handle : Option Handle) (now : Session) : Prop where
  bindings : (now.scopes.scopeAt s.scopes.size).bindings =
    emptyFields s.graph.size (s.allFields id) ++
      [(classField, ⟨.classRef id, s.graph.size + (s.allFields id).length⟩)]
  tag : (now.scopes.scopeAt s.scopes.size).tag = some ⟨s.nextObject, id, handle⟩
  others : ∀ i : Nat, i ≠ s.scopes.size → now.scopes.scopeAt i = s.scopes.scopeAt i

/-- An object is ready when its constructor is called. -/
lemma ready_atConstructor (className : String) (id : ClassId) (handle : Option Handle) :
    s.Ready id handle (s.atConstructor className id handle) where
  bindings := congrArg Scope.bindings Regime.scopeAt_withObject
  tag := congrArg Scope.tag Regime.scopeAt_withObject
  others _ ne := (scopeAt_withScope ..).trans (if_neg ne)

section

variable {args : List Justified} (found : s.lookupClass? className = some id)
  (user : (s.classAt id).builtin = none) (why : ReasonId) (inner : Inner)

include found

/-- If the arguments are refused, the making of the object ends before anything is declared. -/
lemma newObject_refused {fault : NativeFault} (refuses : s.Refuses id args fault) :
    Because.newObject inner className args why s =
      .failed ((fault.toFailure className "new").orReason why)
        (s.withObject className id none s.graph []) := by
  rw [Regime.newObject_eq args found]
  exact Action.bind_failed (refuses.unattached className why)

include user

/-- An object of a class that a program declares is prepared, and then its constructor runs. -/
lemma newObject_prepares (takes : s.Takes id args handle) :
    Because.newObject inner className args why s =
      ((s.prepare id >>= fun _ =>
          runConstructor inner s.scopes.size id args (s.nativeBuiltin? id).isSome why) >>= fun _ =>
        describeNew s.scopes.size className args why)
          (s.withObject className id handle s.graph []) := by
  have constructs : constructUser inner s.scopes.size id args (s.nativeBuiltin? id).isSome why
      (s.withObject className id handle s.graph []) = _ :=
    Regime.constructUser_eq className id handle args (s.nativeBuiltin? id).isSome
  rw [Regime.newObject_eq args found]
  simp only [Bind.bind, takes.attached className why]
  change (if (s.classAt id).builtin.isSome then
      tagClass s.scopes.size id >>= fun _ => describeNew s.scopes.size className args why
    else constructUser inner s.scopes.size id args (s.nativeBuiltin? id).isSome why >>= fun _ =>
      describeNew s.scopes.size className args why)
        (s.withObject className id handle s.graph []) = _
  rw [user]
  exact Action.bind_congr constructs

/-- If all fields can be declared, the constructor is called on an object that is ready. -/
lemma newObject_ready (takes : s.Takes id args handle)
    (distinct : (s.allFields id ++ [classField]).Nodup) :
    Because.newObject inner className args why s =
      (runConstructor inner s.scopes.size id args (s.nativeBuiltin? id).isSome why >>= fun _ =>
        describeNew s.scopes.size className args why) (s.furnished className id handle) := by
  rw [newObject_prepares found user why inner takes]
  simp only [Bind.bind, prepare_done distinct]

/-- The constructor, if there is one, gets the new object before the arguments. -/
lemma newObject_calls (takes : s.Takes id args handle)
    (distinct : (s.allFields id ++ [classField]).Nodup) {init : FunctionId}
    (method : (s.classAt id).methods.get? initName = some init) :
    Because.newObject inner className args why s =
      (inner.call init
          (⟨.object s.scopes.size, (s.furnished className id handle).graph.size⟩ :: args) why >>=
        fun _ => describeNew s.scopes.size className args why)
        (s.atConstructor className id handle) := by
  rw [newObject_ready found user why inner takes distinct]
  have specified : Action.text s!"my program specified a {(s.classAt id).name}"
      (s.furnished className id handle) =
    (.done (s.furnished className id handle).graph.size (s.atConstructor className id handle) :
      Outcome Failure ReasonId) := rfl
  have same : (s.furnished className id handle).classAt id = s.classAt id := rfl
  simp only [runConstructor, Bind.bind, Action.ask, method, same, specified]
  cases inner.call init _ why (s.atConstructor className id handle) <;> rfl

/-- The first field that cannot be declared ends the making of the object. -/
lemma newObject_repeats (takes : s.Takes id args handle) {before after : List String}
    {name : String} (split : s.allFields id ++ [classField] = before ++ name :: after)
    (distinct : before.Nodup) (again : name ∈ before) :
    ∃ graph, ∀ inner, Because.newObject inner className args why s =
      .failed (.of (.duplicateDeclaration name s!"{className}@{s.nextObject}"))
        (s.withObject className id handle graph (emptyFields s.graph.size before)) := by
  obtain ⟨graph, stops⟩ := prepare_stops_at className handle split distinct again
  refine ⟨graph, fun inner => ?_⟩
  rw [newObject_prepares found user why inner takes]
  exact Action.bind_failed (Action.bind_failed stops)

end

/-- How an object of a class that a program declares is made. Its constructor is called when the
object is ready. If it has two fields of one name, or one that is called as the record of its class,
its making ends at the second one; and it ends at once if the built-in class above the class refuses
the arguments. Both ends are the same however functions run, so that nothing has been called. -/
structure FieldsFirst (s : Session) (className : String) (id : ClassId) (args : List Justified)
    (why : ReasonId) : Prop where
  fields : s.FieldsOf id (s.allFields id)
  state : (∃ handle, s.Takes id args handle) ∨ ∃ fault, s.Refuses id args fault
  calls : ∀ handle init, s.Takes id args handle → (s.allFields id ++ [classField]).Nodup →
    (s.classAt id).methods.get? initName = some init →
    s.Ready id handle (s.atConstructor className id handle) ∧
    ∀ inner, Because.newObject inner className args why s =
      (inner.call init
          (⟨.object s.scopes.size, (s.furnished className id handle).graph.size⟩ :: args) why >>=
        fun _ => describeNew s.scopes.size className args why)
        (s.atConstructor className id handle)
  repeats : ∀ handle, s.Takes id args handle → ¬ (s.allFields id ++ [classField]).Nodup →
    ∃ before name after graph, s.allFields id ++ [classField] = before ++ name :: after ∧
      before.Nodup ∧ name ∈ before ∧
      ∀ inner, Because.newObject inner className args why s =
        .failed (.of (.duplicateDeclaration name s!"{className}@{s.nextObject}"))
          (s.withObject className id handle graph (emptyFields s.graph.size before))
  refuses : ∀ fault, s.Refuses id args fault →
    ∀ inner, Because.newObject inner className args why s =
      .failed ((fault.toFailure className "new").orReason why)
        (s.withObject className id none s.graph [])

/-- In a session that is in order, fields come first. -/
lemma InOrder.fieldsFirst (h : s.InOrder) (found : s.lookupClass? className = some id)
    (user : (s.classAt id).builtin = none) (args : List Justified) (why : ReasonId) :
    s.FieldsFirst className id args why where
  fields := h.rooted.fieldsOf id
  state := s.takes_or_refuses id args
  calls _ _ takes distinct method :=
    ⟨ready_atConstructor .., fun inner =>
      newObject_calls found user why inner takes distinct method⟩
  repeats _ takes twice := by
    obtain ⟨before, name, after, split, first, again⟩ := exists_first_repeated twice
    obtain ⟨graph, fails⟩ := newObject_repeats found user why takes split first again
    exact ⟨before, name, after, graph, split, first, again, fails⟩
  refuses _ refused inner := newObject_refused found why inner refused

/-- In sessions that can come about, and at every moment of their runs, the constructor of a class
that a program declares is called on an object that has its state and all of its fields; and if a
field cannot be declared, or the state cannot be made, nothing is called. -/
theorem Reachable.fields_first (h : s.Reachable) (steps : Nat) (program : Program) :
    s.InOrder ∧ (s.Throughout steps program fun _ now => now.InOrder) ∧
    ∀ now : Session, now.InOrder → ∀ className id, now.lookupClass? className = some id →
      (now.classAt id).builtin = none → ∀ args why, now.FieldsFirst className id args why :=
  ⟨h.inOrder, h.throughout steps program fun inOrder _ => inOrder,
    fun _ inOrder _ _ found user args why => inOrder.fieldsFirst found user args why⟩

/-- A class of lists with a field, and a class derived from it with another field and a
constructor. -/
def heirs : Program :=
  [.declareClass .builtin ⟨"Base", some "List", ["a"], []⟩,
    .declareClass .builtin ⟨"Derived", some "Base", ["b"], [⟨initName, [selfName], [], .builtin⟩]⟩]

/-- The constructor of the derived class finds both fields, the inherited one first, and a list. -/
theorem Reachable.fields_first_of_heirs : (Session.start {} {}).Reachable ∧ ∃ s id init,
    (Session.start {} {}).LeadsTo s ∧ s.lookupClass? "Derived" = some id ∧
      (s.classAt id).builtin = none ∧ (s.classAt id).methods.get? initName = some init ∧
      s.FieldsOf id ["a", "b"] ∧ s.Ready id (some (.list [])) (s.atConstructor "Derived" id
        (some (.list []))) ∧ s.FieldsFirst "Derived" id [] 0 := by
  have reachable := Reachable.start {} {}
  have runs : ((Because.runProgram (.within 4) heirs (Session.start {} {})).session?.map fun s =>
      decide (s.lookupClass? "Derived" = some 6 ∧ (s.classAt 6).builtin = none ∧
        (s.classAt 6).methods.get? initName = some 21 ∧ s.allFields 6 = ["a", "b"] ∧
        s.nativeBuiltin? 6 = some .list)) = some true := by
    decide +kernel
  obtain ⟨s, left, facts⟩ := Option.map_eq_some_iff.1 runs
  obtain ⟨found, user, method, fields, native⟩ := of_decide_eq_true facts
  have leads : (Session.start {} {}).LeadsTo s := ⟨4, heirs, left⟩
  obtain ⟨inOrder, -, makes⟩ := (reachable.run leads).fields_first 0 []
  have first := makes s inOrder "Derived" 6 found user [] 0
  have takes : s.Takes 6 [] (some (.list [])) := .backed native rfl rfl
  refine ⟨reachable, s, 6, 21, leads, found, user, method, fields ▸ first.fields, ?_, first⟩
  exact (first.calls _ 21 takes (by rw [fields]; decide) method).1

/-- A class of texts that declares a field twice. -/
def stutterer : Program := [.declareClass .builtin ⟨"Stutter", some "String", ["x", "x"], []⟩]

/-- A field that is declared twice need not be what the making of an object fails for: without a
text there is no state for an object of texts, and this is found out first. -/
theorem stutterer_refused : (Session.start {} {}).Reachable ∧ ∃ s id,
    (Session.start {} {}).LeadsTo s ∧ s.lookupClass? "Stutter" = some id ∧
      (s.classAt id).builtin = none ∧ ¬ (s.allFields id).Nodup ∧
      ∃ failure now, (∀ inner, Because.newObject inner "Stutter" [] 0 s = .failed failure now) ∧
        ∀ name scope, failure.fault ≠ .duplicateDeclaration name scope := by
  have runs : ((Because.runProgram (.within 4) stutterer (Session.start {} {})).session?.map
      fun s => decide (s.lookupClass? "Stutter" = some 5 ∧ (s.classAt 5).builtin = none ∧
        ¬ (s.allFields 5).Nodup ∧ s.nativeBuiltin? 5 = some .string)) = some true := by
    decide +kernel
  obtain ⟨s, left, facts⟩ := Option.map_eq_some_iff.1 runs
  obtain ⟨found, user, twice, native⟩ := of_decide_eq_true facts
  have refuses : s.Refuses 5 [] (.arity "String" 1 0) := ⟨.string, native, rfl⟩
  refine ⟨.start {} {}, s, 5, ⟨4, stutterer, left⟩, found, user, twice, _, _,
    fun inner => newObject_refused found 0 inner refuses, ?_⟩
  rintro name scope ⟨⟩

end Session

end Because
