import Because.Proofs.Orderly.Kept
import Mathlib.Data.List.Basic

/-!
# Records of classes

An object has its class twice: its tag has it, by which methods are found and objects are shown, and
so has one of its properties, which programs read. Both are made before the constructor of the
object runs, and they agree for as long as the program leaves the property alone. Properties are
assigned to without regard to what they are for, so that a program may change this one as well; this
is recorded as the reason of the new value, and does not change how methods are found.
-/

namespace Because

open Session Comparison

namespace Session

variable {s s' now : Session} {id : ClassId}

/-- The object binds its class in its own scope, unless the program has assigned to this property. -/
def Records (s : Session) (i : ScopeId) (id : ClassId) : Prop :=
  (∃ why, s.scopes.local? i classField = some ⟨.classRef id, why⟩) ∨
    s.Assigned 0 i classField fun what => ∃ owner, what = propertyText owner classField

/-- What is known of the classes of objects: classes build on older ones, objects are of classes that
are there, and those that are complete record their class. -/
structure Recording (s : Session) : Prop where
  parents : ∀ id p : Nat, (s.classAt id).parent = some p → p < id
  bases : ∀ id base : Nat, (s.classAt id).nativeBase = some base → base ≤ id
  known : ∀ i id builtin, s.kind? i = some (id, builtin) → Nat.lt id s.classes.size
  records : ∀ i id, s.kind? i = some (id, s.nativeBuiltin? id) → s.Constructs id → s.Records i id

/-! ## Classes that are there -/

/-- The classes above a class stay the same if no class gets another parent. -/
lemma lineageFrom_same (older : ∀ id p : Nat, (s.classAt id).parent = some p → p < id)
    (same : ∀ id : Nat, id < s.classes.size → (s'.classAt id).parent = (s.classAt id).parent)
    (steps : Nat) {id : Nat} (lt : id < s.classes.size) :
    s'.lineageFrom steps id = s.lineageFrom steps id ∧
      ∀ ancestor ∈ s.lineageFrom steps id, Nat.lt ancestor s.classes.size := by
  induction steps generalizing id with
  | zero => exact ⟨rfl, nofun⟩
  | succ steps ih =>
    rw [lineageFrom, lineageFrom, same id lt]
    cases e : (s.classAt id).parent with
    | none => exact ⟨rfl, fun ancestor mem => List.mem_singleton.1 mem ▸ lt⟩
    | some p =>
      obtain ⟨eq, made⟩ := ih (Nat.lt_trans (older id p e) lt)
      exact ⟨congrArg (id :: ·) eq, List.forall_mem_cons.2 ⟨lt, made⟩⟩

/-- What a class asks of its objects does not change. -/
lemma Change.asks (change : s.Change s') (h : s.Recording) (lt : Nat.lt id s.classes.size) :
    s'.nativeBuiltin? id = s.nativeBuiltin? id ∧ (s'.Constructs id ↔ s.Constructs id) := by
  have fields (ancestor : Nat) (lt : ancestor < s.classes.size) :
      (s'.classAt ancestor).fields = (s.classAt ancestor).fields := by
    rw [change.classAt lt]
  have builtin (base : Nat) (lt : base < s.classes.size) :
      (s'.classAt base).builtin = (s.classAt base).builtin := by
    rw [change.classAt lt]
  have native : (s'.classAt id).nativeBase = (s.classAt id).nativeBase := by
    rw [change.classAt lt]
  obtain ⟨lineage, made⟩ := lineageFrom_same h.parents
    (fun id lt => by rw [change.classAt lt]) (id + 1) lt
  constructor
  · rw [nativeBuiltin?, nativeBuiltin?, native]
    cases e : (s.classAt id).nativeBase with
    | none => rfl
    | some base => exact builtin base (Nat.lt_of_le_of_lt (h.bases id base e) lt)
  · have all : s'.allFields id = s.allFields id := by
      rw [allFields, allFields, Session.lineage, lineage]
      refine List.flatMap_congr fun ancestor mem => ?_
      exact fields ancestor (made ancestor (List.mem_reverse.1 mem))
    rw [Constructs, Constructs, all, builtin id lt]

/-! ## Objects -/

/-- The record of a class stays, or the program assigns to it. -/
lemma Records.change (change : s.Change s') {i : ScopeId} (object : (s.kind? i).isSome)
    (h : s.Records i id) : s'.Records i id := by
  have tagged : (s.scopes.scopeAt i).tag.isSome := by rwa [kind?, Option.isSome_map] at object
  have shows (what : String) (shows : s.Shows i classField what) :
      ∃ owner, what = propertyText owner classField :=
    shows.property tagged
  obtain ⟨why, found⟩ | assigned := h
  · exact (change.binding found (Nat.zero_le _) shows).imp_left fun same => ⟨why, same⟩
  · exact .inr (assigned.change change (Nat.zero_le _) shows)

/-- No change takes the record of its class away from a complete object. -/
lemma recording_kept : Kept Recording := by
  intro s s' change h
  have known (i : ScopeId) (id : ClassId) (builtin : Option Builtin)
      (object : s'.kind? i = some (id, builtin)) : Nat.lt id s.classes.size := by
    obtain old | new := change.kind i
    · exact h.known i id builtin (old.symm.trans object)
    · exact (new.prepared id builtin object).1
  refine ⟨fun id p above => ?_, fun id base above => ?_, fun i id builtin object => ?_,
    fun i id complete constructs => ?_⟩
  · obtain same | new := change.class_cases id
    · rw [same] at above
      exact h.parents id p above
    · exact new.2.1 p above
  · obtain same | new := change.class_cases id
    · rw [same] at above
      exact h.bases id base above
    · exact new.2.2 base above
  · exact Nat.lt_of_lt_of_le (known i id builtin object) change.classes_size
  · have lt := known i id _ complete
    obtain ⟨native, asks⟩ := change.asks h lt
    obtain old | new := change.kind i
    · rw [native, old] at complete
      have object : (s.kind? i).isSome := Option.isSome_iff_exists.2 ⟨_, complete⟩
      exact (h.records i id complete (asks.1 constructs)).change change object
    · obtain ⟨-, handle, state, prepares⟩ := new.prepared id _ complete
      exact .inl (prepares (state.trans native) (asks.1 constructs))

/-- Before anything is declared there are no objects that could lack a record. -/
lemma blank_recording (config : Config) (console : Console) : (blank config console).Recording := by
  have noClass (id : ClassId) : (blank config console).classAt id = default := by
    cases id <;> rfl
  have noObject (i : ScopeId) : (blank config console).kind? i = none := by
    cases i <;> rfl
  refine ⟨fun id p above => ?_, fun id base above => ?_, fun i id builtin object => ?_,
    fun i id complete => ?_⟩
  · rw [noClass] at above
    cases above
  · rw [noClass] at above
    cases above
  · rw [noObject] at object
    cases object
  · rw [noObject] at complete
    cases complete

/-- In sessions that can come about, objects record their classes. -/
lemma Reachable.recording (h : s.Reachable) : s.Recording :=
  h.keeps recording_kept blank_recording

/-! ## Objects that a program can get hold of -/

/-- Something in the session refers to the value: a scope binds it, or a list or a dictionary has
it. -/
inductive Stores (s : Session) : Value → Prop where
  | bound {i : ScopeId} {name : String} {info : Justified} :
    s.scopes.local? i name = some info → Stores s info.value
  | item {list : Value} {items : List Justified} {item : Justified} :
    s.handle? list = some (.list items) → item ∈ items → Stores s item.value
  | key {dict : Value} {entries : Ledger Key Entry} {entry : Entry} :
    s.handle? dict = some (.dict entries) → entry ∈ entries.slots → Stores s entry.key.value
  | entry {dict : Value} {entries : Ledger Key Entry} {entry : Entry} :
    s.handle? dict = some (.dict entries) → entry ∈ entries.slots → Stores s entry.value.value

end Session

/-- The value is being handed over at the moment, as an argument or as a result. -/
inductive Moment.Carries : Moment → Value → Prop where
  | argument {f : FunctionId} {args : List Justified} {why : ReasonId} {arg : Justified} :
    arg ∈ args → Carries (.calling f args why) arg.value
  | result (result : Justified) : Carries (.evaluated result) result.value
  | returned (result : Justified) : Carries (.executed (.returned result)) result.value

namespace Session

variable {s : Session} {id : ClassId}

/-- If the value is an object, and the making of an object of its class gets to the constructor, the
object records its class. -/
def RecordsClass (s : Session) (value : Value) : Prop :=
  ∀ id, s.classOf? value = some id → s.Constructs id →
    ∃ i, value = .object i ∧ s.Records i id

/-- A value that fits the session records its class, if it is an object that is complete. -/
lemma Recording.recordsClass (h : s.Recording) {value : Value} (fits : value.Fits s) :
    s.RecordsClass value := by
  intro id ofClass constructs
  cases value with
  | object i =>
    obtain ⟨id', -, kind⟩ := fits
    cases (classOf_of_kind kind).symm.trans ofClass
    exact ⟨i, rfl, h.records i id kind constructs⟩
  | _ => cases ofClass

/-- Scopes that hold the methods of classes bind no objects. -/
lemma InOrder.recordsClass_stored (h : s.InOrder) (recording : s.Recording) {value : Value}
    (stores : s.Stores value) : s.RecordsClass value := by
  cases stores with
  | @bound i name info found =>
    by_cases impl : s.IsImpl i
    · obtain ⟨id, lt, rfl⟩ := impl
      obtain ⟨f, isFunction, -⟩ := (h.classes id lt).own name info found
      rw [isFunction]
      rintro _ ⟨⟩
    · exact recording.recordsClass (h.bindings i name info impl found)
  | @item _ _ item holds mem => exact recording.recordsClass (h.handle holds item mem)
  | @key _ _ entry holds mem => exact recording.recordsClass (h.handle holds entry mem).1
  | @entry _ _ entry holds mem => exact recording.recordsClass (h.handle holds entry mem).2

/-- What is being handed over records its class. -/
lemma Recording.recordsClass_carried (h : s.Recording) {moment : Moment} (fits : moment.Fits s)
    {value : Value} (carries : moment.Carries value) : s.RecordsClass value := by
  cases carries with
  | argument mem => exact h.recordsClass (fits.2 _ mem)
  | result | returned => exact h.recordsClass fits

/-! ## Objects that are not completed -/

/-- Neither may a field be declared twice, nor may one be called as the property that records the
class. -/
lemma prepare_stops (className : String) (id : ClassId) (handle : Option Handle)
    {fields : List String} (twice : ¬ (fields ++ [classField]).Nodup) :
    ∃ failure s', (declareFields s.scopes.size fields >>= fun _ => tagClass s.scopes.size id)
      (s.withObject className id handle s.graph []) = .failed failure s' := by
  obtain ⟨graph, bindings, -, -, ended⟩ :=
    Regime.declareFields_cases (s := s) className id handle s.graph [] .refl fields
  obtain ⟨done, distinct, -, all⟩ | ⟨failure, fails, -⟩ := ended
  · have among : classField ∈ fields := by
      by_contra other
      refine twice (List.nodup_append.2 ⟨distinct, List.pairwise_singleton .., ?_⟩)
      rintro field mem _ isClass rfl
      exact other (List.mem_singleton.1 isClass ▸ mem)
    have known : bindings.contains classField = true := by
      rw [all, decide_eq_true among, Bool.true_or]
    let told := graph.push (.text "This is the class of the object") [] none
    have tag : tagClass s.scopes.size id (s.withObject className id handle graph bindings) =
        Action.declare s.scopes.size classField ⟨.classRef id, graph.size⟩
          (s.withObject className id handle told bindings) := rfl
    refine ⟨.of (.duplicateDeclaration classField s!"{className}@{s.nextObject}"),
      s.withObject className id handle told bindings, ?_⟩
    simp only [Bind.bind, done, tag, Regime.declare_withObject, known, if_true]
  · exact ⟨failure, s.withObject className id handle graph bindings, by
      simp only [Bind.bind, fails]⟩

/-- The making of an object fails before anything is called if it cannot record its class. -/
lemma newObject_stops {className : String} (found : s.lookupClass? className = some id)
    (stops : ¬ s.Constructs id) (args : List Justified) (why : ReasonId) :
    ∃ failure s', ∀ inner, Because.newObject inner className args why s = .failed failure s' := by
  rw [Constructs, not_or, Bool.not_eq_true] at stops
  obtain ⟨user, twice⟩ := stops
  obtain ⟨handle, attached, -⟩ | ⟨failure, fails, -⟩ :=
    Regime.attachHandle_cases (s := s) className id args why
  · obtain ⟨failure, s', fails⟩ := prepare_stops (s := s) className id handle twice
    refine ⟨failure, s', fun inner => ?_⟩
    have stopped : constructUser inner s.scopes.size id args (s.nativeBuiltin? id).isSome why
        (s.withObject className id handle s.graph []) = .failed failure s' := by
      rw [Regime.constructUser_eq]
      exact Action.bind_failed fails
    rw [Regime.newObject_eq args found]
    simp only [Bind.bind, attached]
    change (if (s.classAt id).builtin.isSome then
        tagClass s.scopes.size id >>= fun _ => describeNew s.scopes.size className args why
      else constructUser inner s.scopes.size id args (s.nativeBuiltin? id).isSome why >>= fun _ =>
        describeNew s.scopes.size className args why)
          (s.withObject className id handle s.graph []) = _
    rw [if_neg (Bool.eq_false_iff.1 user)]
    exact Action.bind_failed stopped
  · refine ⟨failure, s.withObject className id none s.graph [], fun inner => ?_⟩
    rw [Regime.newObject_eq args found]
    simp only [Bind.bind, fails]

/-- A method is looked for in the class that the tag of the object has. -/
lemma dispatchObject_of_class {target : Justified} (ofClass : s.classOf? target.value = some id)
    (method : String) : ∃ why s', dispatchObject target method s = .done (id, why) s' := by
  simp only [dispatchObject, Bind.bind, Action.render, Action.ask, ofClass]
  exact ⟨_, _, rfl⟩

/-! ## All programs -/

/-- Every object that the session refers to records its class. -/
def AllRecord (s : Session) : Prop := ∀ value, s.Stores value → s.RecordsClass value

/-- In sessions that can come about, every object that has got to its constructor and that a scope, a
list, a dictionary, an argument or a result refers to binds its class among its properties, unless
the program has assigned to this property, as the reason of its value then says. This holds at every
moment of a run and after it. The class is the one in which methods are looked for, and objects of
which the class cannot be recorded never get to their constructor. -/
theorem Reachable.classes_recorded (h : s.Reachable) :
    s.AllRecord ∧
    (∀ steps program,
      (s.Throughout steps program fun moment now => now.AllRecord ∧
        ∀ value, moment.Carries value → now.RecordsClass value) ∧
      ∀ s', (Because.runProgram (.within steps) program s).session? = some s' → s'.AllRecord) ∧
    (∀ (now : Session) target method id, now.classOf? target.value = some id →
      ∃ why now', dispatchObject target method now = .done (id, why) now') ∧
    ∀ (now : Session) className id args why, now.lookupClass? className = some id →
      ¬ now.Constructs id →
      ∃ failure now', ∀ inner,
        Because.newObject inner className args why now = .failed failure now' := by
  have inOrder := h.inOrder
  have recording := h.recording
  refine ⟨fun _ => inOrder.recordsClass_stored recording, fun steps program => ?_,
    fun now _ method _ ofClass => dispatchObject_of_class ofClass method,
    fun now _ _ args why found stops => newObject_stops found stops args why⟩
  have keeps := inOrder.keeps_program recording_kept recording program
  constructor
  · refine (steady_runProgram program).during_mono (keeps.during steps) ?_
    rintro moment now ⟨inOrder, fits, recording⟩
    exact ⟨fun _ => inOrder.recordsClass_stored recording,
      fun _ => recording.recordsClass_carried fits⟩
  · intro s' left
    obtain ⟨inOrder, recording⟩ := keeps.left steps s' left
    exact fun _ => inOrder.recordsClass_stored recording

/-- A program that makes an object and assigns to the property that records its class. -/
def relabeler : Program :=
  [.declareClass .builtin ⟨"C", none, [], []⟩,
    .declare .builtin "a" (.new .builtin "C" []),
    .setProperty .builtin (.get .builtin "a") classField (.const .builtin (.int 5))]

/-- The run that assigns to the property, in a new session. -/
theorem Reachable.classes_recorded_of_start : (Session.start {} {}).Reachable ∧
    (Session.start {} {}).AllRecord ∧
    (Session.start {} {}).Throughout 4 relabeler fun moment now => now.AllRecord ∧
      ∀ value, moment.Carries value → now.RecordsClass value := by
  have reachable := Reachable.start {} {}
  obtain ⟨all, runs, -⟩ := reachable.classes_recorded
  exact ⟨reachable, all, (runs 4 relabeler).1⟩

/-- What the property says need not be the class of the object: a program may assign a number to
it. -/
theorem relabeler_disagrees : (start {} {}).Reachable ∧ ∃ s value id why,
    (start {} {}).LeadsTo s ∧ s.Stores value ∧ s.classOf? value = some id ∧ s.Constructs id ∧
      s.field? value classField = some ⟨.int 5, why⟩ := by
  have runs : ((Because.runProgram (.within 4) relabeler (start {} {})).session?.map fun s =>
      (s.global? "a", s.classOf? (.object 7), s.allFields 5,
        s.field? (.object 7) classField)) =
      some (some ⟨.object 7, 32⟩, some 5, [], some ⟨.int 5, 36⟩) := by
    decide +kernel
  obtain ⟨s, left, same⟩ := Option.map_eq_some_iff.1 runs
  obtain ⟨bound, ofClass, fields, field⟩ := by
    simpa only [Prod.mk.injEq] using same
  have distinct : (s.allFields 5 ++ [classField]).Nodup := by
    rw [fields]
    exact List.pairwise_singleton ..
  exact ⟨.start {} {}, s, .object 7, 5, 36, ⟨4, relabeler, left⟩, .bound bound, ofClass,
    .inr distinct, field⟩

end Session

end Because
