import Because.Program.Build
import Because.Proofs.Declaration

/-!
# What constructors copy into fields

A constructor that is added to a class with fields begins with copies: each of its parameters that
is named like a field is copied into that field. So when the rest of its body begins, these fields
hold the arguments, by the positions of the parameters, and all other fields are None, those of the
classes above included, even if a parameter has the name of one of these. A constructor that gets
another number of arguments is not run at all.
-/

namespace Because

/-! ## Declarations -/

namespace ClassDecl

/-- A declaration may go on with a parent and with more methods. -/
inductive GoesOn (decl : Class) : Class → Prop where
  | here : GoesOn decl decl
  | inherit {later : Class} (parent : String) : GoesOn decl later →
    GoesOn decl (ClassDecl.inherit later parent)
  | method {later : Class} (loc : Location) (name : String) (params : List String)
    (body : List Stmt) :
    GoesOn decl later → GoesOn decl (ClassDecl.method later loc name params body)

/-- A class that has these fields gets this constructor. -/
def Initializes (fields params : List String) (loc : Location) (body : List Stmt) (decl : Class) :
    Prop :=
  ∃ before : Class, before.fields = fields ∧ GoesOn (ClassDecl.init before loc params body) decl

/-- The constructor of a class that has these fields. -/
def constructor (fields params : List String) (loc : Location) (body : List Stmt) : Function where
  name := initName
  params := selfName :: params
  body := (params.filter fields.contains).map (Stmt.copyField loc) ++ body
  loc := loc

/-- What goes on from a declaration has its fields, and its methods come first. -/
lemma GoesOn.keeps {decl later : Class} (goesOn : GoesOn decl later) :
    later.fields = decl.fields ∧ decl.methods <+: later.methods := by
  induction goesOn with
  | here => exact ⟨rfl, List.prefix_refl _⟩
  | inherit _ _ ih => exact ih
  | method _ _ _ _ _ ih => exact ⟨ih.1, ih.2.trans (List.prefix_append ..)⟩

/-- A class that is declared so has these fields and this constructor. -/
lemma Initializes.declares {fields params : List String} {loc : Location} {body : List Stmt}
    {decl : Class} (h : Initializes fields params loc body decl) :
    decl.fields = fields ∧ constructor fields params loc body ∈ decl.methods := by
  obtain ⟨before, rfl, goesOn⟩ := h
  obtain ⟨fields, methods⟩ := goesOn.keeps
  exact ⟨fields, methods.subset (List.mem_append_right _ List.mem_cons_self)⟩

end ClassDecl

open ClassDecl

namespace Session

variable {s s' now : Session} {id : ClassId} {f : FunctionId} {fields params names : List String}
  {loc : Location} {body : List Stmt} {object : ScopeId} {w why : ReasonId} {name className : String}
  {arg : Justified} {args : List Justified} {entries : List (String × Justified)}

/-- A program has declared the class, with these fields and with this constructor for them. -/
structure Declared (s : Session) (id : ClassId) (f : FunctionId) (fields params : List String)
    (loc : Location) (body : List Stmt) : Prop where
  made : Nat.lt id s.classes.size
  user : (s.classAt id).builtin = none
  lists : (s.classAt id).fields = fields
  table : (s.classAt id).methods.get? initName = some f
  bound : s.scopes.binds (s.classAt id).implScope initName = true
  defined : Nat.lt f s.functions.size
  function : s.functionAt f = .ofMethod id (constructor fields params loc body)

/-- A class keeps its constructor, whatever happens. -/
lemma declared_kept : Kept fun s => s.Declared id f fields params loc body := by
  intro s s' change h
  have same := change.classAt h.made
  refine ⟨Nat.lt_of_lt_of_le h.made change.classes_size, ?_, ?_,
    change.method h.made h.table h.bound, ?_,
    Nat.lt_of_lt_of_le h.defined change.functions_size, ?_⟩
  · rw [same, h.user]
  · rw [same, h.lists]
  · rw [same]
    exact change.binds h.bound
  · rw [change.functionAt h.defined, h.function]

/-- A class that has been declared so has this constructor. -/
lemma InOrder.declares_class (h : s.InOrder) {decl : Class}
    (initializes : Initializes fields params loc body decl)
    (done : declareClass decl why s = .done () s') :
    s'.lookupClass? decl.name = some s.classes.size ∧
      ∃ f, s'.Declared s.classes.size f fields params loc body := by
  obtain ⟨sameFields, mem⟩ := initializes.declares
  obtain ⟨distinct, parent, introduces⟩ := declareClass_introduces h.global.made done
  obtain ⟨f, table, defined, function⟩ := introduces.method distinct mem
  refine ⟨introduces.lookupClass?, f, ?_, ?_, ?_, table, ?_, defined, function⟩
  · exact Nat.lt_of_lt_of_eq (Nat.lt_succ_self _) introduces.classes.symm
  · rw [introduces.new]
    rfl
  · rw [introduces.new]
    exact sameFields
  · rw [introduces.new]
    exact introduces.binds _ (List.mem_map_of_mem mem)

/-! ## Copies -/

/-- In the body of a function that runs on the object, with these variables. -/
structure Inside (s : Session) (object : ScopeId) (entries : List (String × Justified)) : Prop where
  apart : s.currentScope ≠ object
  bound : ∀ entry ∈ entries, s.scopes.local? s.currentScope entry.1 = some entry.2
  known : ∀ entry ∈ entries, Nat.lt entry.2.why s.graph.size

/-- In its body a function finds these variables. -/
lemma Inside.tryGet (h : s.Inside object entries) {entry : String × Justified}
    (mem : entry ∈ entries) : s.scopes.tryGet s.currentScope entry.1 = some entry.2 := by
  rw [tryGet_eq, Scopes.chain, Scopes.chainFrom, List.findSome?_cons, h.bound entry mem]

/-- In a call with as many arguments as parameters, the parameters hold the arguments. -/
lemma Opens.inside {function : FunctionDef} {called : ReasonId}
    (h : s.Opens function args why called now) (distinct : function.params.Nodup)
    (counts : args.length = function.params.length) (made : Nat.lt object s.scopes.size)
    (known : s.graph.Knows (reasons args)) :
    now.Inside object (function.params.zip args) := by
  obtain ⟨-, location, rfl⟩ := h
  have names : ((function.params.zip args).map Prod.fst).Nodup := by
    rwa [List.map_fst_zip (Nat.le_of_eq counts.symm)]
  refine ⟨Nat.ne_of_gt made, fun entry mem => ?_, fun entry mem => ?_⟩
  · exact (congrArg (·.bindings.get? entry.1) ((scopeAt_bodySession _).trans (if_pos rfl))).trans
      (get?_of_mem names mem)
  · have zipped : (entry.1, entry.2) ∈ function.params.zip args := mem
    exact Nat.lt_of_lt_of_le (known _ (List.mem_map_of_mem (List.of_mem_zip zipped).2))
      (Graph.Grows.push ..).size

/-- A call leaves what there was alone when it opens. -/
lemma Opens.local? {function : FunctionDef} {called : ReasonId}
    (h : s.Opens function args why called now) (made : Nat.lt object s.scopes.size)
    (name : String) : now.scopes.local? object name = s.scopes.local? object name := by
  obtain ⟨-, location, rfl⟩ := h
  rw [Scopes.local?, scopeAt_bodySession, if_neg (Nat.ne_of_lt made), ← Scopes.local?]

/-- A variable is copied into the field of its name. -/
lemma Inside.copies (h : s.Inside object ((selfName, ⟨.object object, w⟩) :: entries))
    (mem : (name, arg) ∈ entries) (bound : s.scopes.binds object name = true)
    (recorded : Nat.lt why s.graph.size) (loc : Location) :
    ∃ v graph, s.graph.size ≤ Graph.size graph ∧
      ∀ steps, Because.exec (steps + 2) (.copyField loc name) why s =
        .done .normal { s with graph, scopes := s.scopes.bind object name ⟨arg.value, v⟩ } := by
  have known (entry) (mem : entry ∈ (selfName, ⟨.object object, w⟩) :: entries) :
      s.graph.Knows [why, entry.2.why] :=
    List.forall_mem_cons.2 ⟨recorded, List.forall_mem_singleton.2 (h.known entry mem)⟩
  obtain ⟨s1, reads1, records1⟩ :=
    lookupVariable_reads (h.tryGet List.mem_cons_self) loc (known _ List.mem_cons_self)
  have found : s1.scopes.tryGet s1.currentScope name = some arg :=
    (records1.tryGet name).trans (h.tryGet (List.mem_cons_of_mem _ mem))
  obtain ⟨s2, reads2, records2⟩ := lookupVariable_reads found loc
    (records1.knows (known _ (List.mem_cons_of_mem _ mem)))
  have notes := records1.toNotes.trans records2.toNotes
  have supported : s2.graph.Knows [why, s1.graph.size] := List.forall_mem_cons.2
    ⟨Nat.lt_of_lt_of_le recorded notes.graph, List.forall_mem_singleton.2 records2.fresh⟩
  let shown := propertyText (s2.render (.object object)) name
  obtain ⟨s3, told, records3⟩ := @record_records s2
    (.full shown (s2.render arg.value) why [s1.graph.size]) _ supported rfl (some loc)
  have told : Action.full shown (s2.render arg.value) loc why [s1.graph.size] s2 =
    .done s2.graph.size s3 := told
  have all := notes.trans records3.toNotes
  have bound3 : s3.scopes.binds object name = true := by
    rw [all.scopes]
    exact bound
  have assigns := assign_bound bound3 ⟨arg.value, s2.graph.size⟩
  refine ⟨s2.graph.size, s3.graph, all.graph, fun steps => ?_⟩
  have ends : (Inner.within (steps + 1)).eval (.get loc selfName) why s =
      .done ⟨.object object, s.graph.size⟩ s1 := reads1
  have evaluated : (Inner.within (steps + 1)).eval (.get loc name) why s1 =
      .done ⟨arg.value, s1.graph.size⟩ s2 := reads2
  have owned : s1.scopes.binds object name = true := by
    rw [records1.scopes]
    exact bound
  have renders (value : Value) : Action.render (ε := Failure) value s2 =
      .done (s2.render value) s2 := rfl
  have runs : execSetProperty (.within (steps + 1)) (.get loc selfName) name (.get loc name) loc why
      s = .done () { s3 with scopes := s3.scopes.bind object name ⟨arg.value, s2.graph.size⟩ } := by
    rw [execSetProperty_eq ends, Action.bind_done (expectOwner_allowed owned),
      Action.bind_done evaluated, Action.bind_done (renders _), assignTo,
      Action.bind_done (renders _), Action.bind_done told, Action.mapError, assigns]
  change (execSetProperty (.within (steps + 1)) (.get loc selfName) name (.get loc name) loc why
    >>= fun _ => pure Flow.normal : Eval Flow) s = _
  rw [Action.bind_done runs, all.same]
  rfl

/-- Variables are copied one after the other. -/
lemma Inside.runs_copies (h : s.Inside object ((selfName, ⟨.object object, w⟩) :: entries))
    (each : ∀ name ∈ names, ∃ arg, (name, arg) ∈ entries)
    (bounds : ∀ name ∈ names, s.scopes.binds object name = true)
    (recorded : Nat.lt why s.graph.size) (loc : Location) (body : List Stmt) :
    ∃ now, now.Inside object ((selfName, ⟨.object object, w⟩) :: entries) ∧
      (∀ name arg, (name, arg) ∈ entries → name ∈ names →
        ∃ v, now.scopes.local? object name = some ⟨arg.value, v⟩) ∧
      (∀ name, name ∉ names → now.scopes.local? object name = s.scopes.local? object name) ∧
      ∀ steps, runStatements (.within (steps + 2)) why (names.map (Stmt.copyField loc) ++ body) s =
        runStatements (.within (steps + 2)) why body now := by
  induction names generalizing s with
  | nil => exact ⟨s, h, fun _ _ _ => nofun, fun _ _ => rfl, fun _ => rfl⟩
  | cons name rest ih =>
    obtain ⟨⟨arg, mem⟩, each⟩ := List.forall_mem_cons.1 each
    obtain ⟨bound, bounds⟩ := List.forall_mem_cons.1 bounds
    obtain ⟨v, graph, grows, runs⟩ := h.copies mem bound recorded loc
    let next : Session :=
      { s with graph, scopes := s.scopes.bind object name ⟨arg.value, v⟩ }
    have locals (i : ScopeId) (other : String) : next.scopes.local? i other =
        if (object = i ∧ object < s.scopes.size) ∧ other = name then some ⟨arg.value, v⟩
        else s.scopes.local? i other := Scopes.local_bind ..
    have inside : next.Inside object ((selfName, ⟨.object object, w⟩) :: entries) := by
      refine ⟨h.apart, fun entry mem => ?_, fun entry mem => ?_⟩
      · rw [← h.bound entry mem]
        exact (locals ..).trans (if_neg fun here => h.apart here.1.1.symm)
      · exact Nat.lt_of_lt_of_le (h.known entry mem) grows
    have stays (other : String) (mem : other ∈ rest) : next.scopes.binds object other = true := by
      have found := congrArg Option.isSome (locals object other)
      refine Eq.trans found ?_
      split
      · rfl
      · exact bounds other mem
    obtain ⟨now, inside', copied, others, ends⟩ :=
      ih inside each stays (Nat.lt_of_lt_of_le recorded grows)
    -- A parameter that is listed twice would be copied twice, from the same variable.
    refine ⟨now, inside', fun other info mem' among => ?_, fun other spared => ?_, fun steps => ?_⟩
    · by_cases later : other ∈ rest
      · exact copied other info mem' later
      · obtain rfl := (List.mem_cons.1 among).resolve_right later
        have same : arg = info := by
          have found := h.bound _ (List.mem_cons_of_mem _ mem)
          rw [h.bound (other, info) (List.mem_cons_of_mem _ mem')] at found
          exact (Option.some.inj found).symm
        refine ⟨v, ?_⟩
        rw [others other later, locals, if_pos ⟨⟨rfl, Scopes.lt_of_binds bound⟩, rfl⟩, same]
    · obtain ⟨ne, spared⟩ := not_or.1 (List.mem_cons.not.1 spared)
      rw [others other spared, locals, if_neg fun here => ne here.2]
    · rw [← ends steps, List.map_cons, List.cons_append, runStatements]
      have runs : (Inner.within (steps + 2)).exec (.copyField loc name) why s =
          .done .normal next := runs steps
      rw [Action.bind_done runs]

/-! ## Constructors -/

/-- What comes of the making of an object once the body of its constructor has ended. -/
def endConstructor (function : FunctionDef) (object : ScopeId) (className : String)
    (args : List Justified) (why : ReasonId) (body : Outcome Failure Flow) :
    Outcome Failure Justified :=
  match endCall function body with
  | .done _ now => describeNew object className args why now
  | .failed failure now => .failed failure now
  | .exhausted => .exhausted

/-- Describing a new object ends as its constructor has ended. -/
lemma describe_ended {function : FunctionDef} {call : Eval Justified} {o : Outcome Failure Flow}
    (ends : call s = endCall function o) (object : ScopeId) (className : String)
    (args : List Justified) (why : ReasonId) :
    (call >>= fun _ => describeNew object className args why) s =
      endConstructor function object className args why o := by
  rw [endConstructor, ← ends]
  simp only [Bind.bind]
  cases call s <;> rfl

/-- A call with another number of arguments is refused, and nothing runs. -/
lemma callFunction_refused {function : FunctionDef} (is : s.functionAt f = function)
    (differ : args.length ≠ function.params.length) (known : s.graph.Knows (why :: reasons args)) :
    ∃ failure s', s.Notes s' ∧
      failure.fault = .arityMismatch function.name function.params.length args.length ∧
      ∀ inner : Inner, Because.callFunction inner f args why s = .failed failure s' := by
  have renders : Action.renderAll (ε := Failure) args s = .done (s.renderAll args) s := rfl
  let fault := Fault.arityMismatch function.name function.params.length args.length
  let required := ", ".intercalate function.params
  let gave := s!"Gave {args.length} arguments : [{s.renderAll args}]"
  let needs := s!"required {function.params.length} arguments: [{required}]"
  obtain ⟨s', told, notes, -⟩ := conj_done known s!"{gave}; {needs}"
  refine ⟨.because fault s.graph.size, s', notes, rfl, fun inner => ?_⟩
  rw [Comparison.callFunction_eq, is, if_neg differ, refuseArgs, Action.bind_done renders]
  exact Action.bind_done told

/-- When the body of the constructor of the object goes on after the copies: the object is `self`,
the parameters hold the arguments, and so do the fields of the class that are named like them; all
other fields are None. -/
structure Initialized (s : Session) (id : ClassId) (fields params : List String)
    (args : List Justified) (object : ScopeId) (now : Session) : Prop where
  self : now.meaning? selfName = some (.object object)
  arguments : ∀ name arg, (name, arg) ∈ params.zip args → now.meaning? name = some arg.value
  copied : ∀ name arg, (name, arg) ∈ params.zip args → name ∈ fields →
    ∃ v, now.field? (.object object) name = some ⟨arg.value, v⟩
  empty : ∀ name ∈ s.allFields id, ¬ (name ∈ fields ∧ name ∈ params) →
    ∃ v, now.field? (.object object) name = some (.none v)

/-- There is an argument for each parameter if there are as many. -/
lemma exists_argument (counts : args.length = params.length) (mem : name ∈ params) :
    ∃ arg, (name, arg) ∈ params.zip args := by
  rw [← List.map_fst_zip (Nat.le_of_eq counts.symm)] at mem
  obtain ⟨⟨_, arg⟩, zipped, rfl⟩ := List.mem_map.1 mem
  exact ⟨arg, zipped⟩

/-- The parameters that are copied are those that are named like a field. -/
lemma mem_copied : name ∈ params.filter fields.contains ↔ name ∈ fields ∧ name ∈ params := by
  rw [List.mem_filter, List.contains_iff_mem, and_comm]

/-- Each of the fields is None for some reason. -/
lemma emptyFields_get? (first : ReasonId) (mem : name ∈ names) :
    ∃ v, Assoc.get? (emptyFields first names) name = some (.none v) := by
  induction names generalizing first with
  | nil => cases mem
  | cons field rest ih =>
    rw [emptyFields, Assoc.get?]
    split
    · exact ⟨first, rfl⟩
    · rename_i ne
      exact ih (first + 1) ((List.mem_cons.1 mem).resolve_left (Ne.symm ne))

/-- The fields of an object are None when its constructor is called. -/
lemma atConstructor_empty (className : String) (mem : name ∈ s.allFields id) :
    ∃ v, (s.atConstructor className id none).scopes.local? s.scopes.size name =
      some (.none v) := by
  obtain ⟨v, found⟩ := emptyFields_get? s.graph.size mem
  refine ⟨v, ?_⟩
  rw [Scopes.local?, (ready_atConstructor className id none).bindings, Assoc.get?_append, found]
  rfl

/-- The fields of an object include those that its own class declares. -/
lemma FieldsOf.own {fields : List String} (h : s.FieldsOf id fields)
    (mem : name ∈ (s.classAt id).fields) : name ∈ fields := by
  cases h with
  | topmost => exact mem
  | derived => exact List.mem_append_right _ mem

/-- What a constructor is called with rests on reasons that have been recorded. -/
lemma atConstructor_known (known : s.graph.Knows (why :: reasons args)) (className : String)
    (id : ClassId) :
    (s.atConstructor className id none).graph.Knows
      (why :: reasons (⟨.object s.scopes.size, (s.furnished className id none).graph.size⟩ ::
        args)) := by
  have grows : (s.furnished className id none).graph.size <
      (s.atConstructor className id none).graph.size := Nat.lt_of_lt_of_eq (Nat.lt_succ_self _)
    (Graph.size_push ..).symm
  have later (j : Nat) (lt : j < s.graph.size) :
      j < (s.atConstructor className id none).graph.size :=
    Nat.lt_of_lt_of_le lt
      (Nat.le_trans (furnished_grows s className id none).size (Nat.le_of_lt grows))
  obtain ⟨caller, others⟩ := List.forall_mem_cons.1 known
  exact List.forall_mem_cons.2 ⟨later _ caller, List.forall_mem_cons.2
    ⟨grows, fun j mem => later j (others j mem)⟩⟩

namespace Declared

variable (h : s.Declared id f fields params loc body) (found : s.lookupClass? className = some id)
  (plain : (s.classAt id).nativeBase = none) (distinct : (s.allFields id ++ [classField]).Nodup)
  (known : s.graph.Knows (why :: reasons args))

include h found plain distinct

/-- The constructor is called on an object whose fields are None. -/
lemma calls (args : List Justified) (why : ReasonId) (inner : Inner) :
    Because.newObject inner className args why s =
      (inner.call f
          (⟨.object s.scopes.size, (s.furnished className id none).graph.size⟩ :: args) why >>=
        fun _ => describeNew s.scopes.size className args why)
        (s.atConstructor className id none) := by
  have native : s.nativeBuiltin? id = none := by
    rw [nativeBuiltin?, plain]
    rfl
  exact newObject_calls found h.user why inner (.plain native) distinct h.table

include known

/-- With as many arguments as parameters, the body begins with the fields filled. -/
lemma lands (fieldsOf : s.FieldsOf id (s.allFields id)) (apart : (selfName :: params).Nodup)
    (counts : args.length = params.length) (room : s.calls.isFull = false) :
    ∃ called now, s.Initialized id fields params args s.scopes.size now ∧
      ∀ steps, Because.newObject (.within (steps + 3)) className args why s =
        endConstructor (.ofMethod id (constructor fields params loc body)) s.scopes.size className
          args why (runStatements (.within (steps + 2)) called body now) := by
  let start := s.atConstructor className id none
  let this : Justified := ⟨.object s.scopes.size, (s.furnished className id none).graph.size⟩
  let function := FunctionDef.ofMethod id (constructor fields params loc body)
  obtain ⟨caller, others⟩ := List.forall_mem_cons.1 (atConstructor_known known className id)
  have is : start.functionAt f = function := h.function
  have enough : (this :: args).length = (selfName :: params).length := congrArg Nat.succ counts
  obtain ⟨begun, opens, fresh, runs⟩ := callFunction_opens is enough apart room caller
  -- The object is older than the scope of the call, in which the parameters stand.
  have made : Nat.lt s.scopes.size start.scopes.size :=
    Nat.lt_of_lt_of_eq (Nat.lt_succ_self _) (Scopes.size_push ..).symm
  have inside : begun.Inside s.scopes.size ((selfName, this) :: params.zip args) :=
    opens.inside apart enough made others
  have bounds (name : String) (mem : name ∈ params.filter fields.contains) :
      begun.scopes.binds s.scopes.size name = true := by
    obtain ⟨v, found⟩ := atConstructor_empty className
      (fieldsOf.own (h.lists.symm ▸ (mem_copied.1 mem).1))
    exact congrArg Option.isSome ((opens.local? made name).trans found)
  obtain ⟨now, inside', copied, spared, ends⟩ := inside.runs_copies
    (fun name mem => exists_argument counts (mem_copied.1 mem).2) bounds
    (Nat.lt_of_lt_of_le (Nat.lt_succ_self _) fresh) loc body
  refine ⟨start.graph.size, now, ⟨?_, ?_, ?_, ?_⟩, fun steps => ?_⟩
  · rw [meaning?, inside'.tryGet List.mem_cons_self]
    rfl
  · intro name arg mem
    rw [meaning?, inside'.tryGet (List.mem_cons_of_mem _ mem)]
    rfl
  · intro name arg mem field
    exact copied name arg mem (mem_copied.2 ⟨field, (List.of_mem_zip mem).1⟩)
  · intro name mem none
    obtain ⟨v, found⟩ := atConstructor_empty className mem
    exact ⟨v, (spared name (mt mem_copied.1 none)).trans ((opens.local? made name).trans found)⟩
  · have call : (Inner.within (steps + 3)).call f (this :: args) why start =
        endCall function (runStatements (.within (steps + 2)) start.graph.size body now) :=
      (runs (.within (steps + 2))).trans (congrArg (endCall function) (ends steps))
    exact (h.calls found plain distinct args why _).trans (describe_ended call _ _ _ _)

/-- With another number of arguments nothing runs, and the fields stay None. -/
lemma refuses (counts : args.length ≠ params.length) :
    ∃ failure left, failure.fault =
        .arityMismatch initName (params.length + 1) (args.length + 1) ∧
      (∀ name ∈ s.allFields id, ∃ v, left.field? (.object s.scopes.size) name = some (.none v)) ∧
      ∀ inner other : Inner, inner.call = Because.callFunction other →
        Because.newObject inner className args why s = .failed failure left := by
  let start := s.atConstructor className id none
  let this : Justified := ⟨.object s.scopes.size, (s.furnished className id none).graph.size⟩
  let function := FunctionDef.ofMethod id (constructor fields params loc body)
  have is : start.functionAt f = function := h.function
  have known := atConstructor_known known className id
  have differ : (this :: args).length ≠ function.params.length := fun same =>
    counts (Nat.succ.inj same)
  obtain ⟨failure, left, notes, fault, fails⟩ := callFunction_refused is differ known
  refine ⟨failure, left, fault, fun name mem => ?_, fun inner other same => ?_⟩
  · obtain ⟨v, found⟩ := atConstructor_empty className mem
    refine ⟨v, ?_⟩
    rw [← found, field?, Value.scope?, Option.bind_some, notes.scopes]
  · rw [h.calls found plain distinct, same]
    exact Action.bind_failed (fails other)

end Declared

/-! ## Objects -/

/-- How an object is made of a class that has been declared so. With as many arguments as the
constructor has parameters, and with room for a call, the rest of the body of the constructor is run
on an object whose fields have been filled. With any other number the making of the object fails, in
the same way whatever statements would do, so that none has been run. -/
structure Fills (s : Session) (className : String) (id : ClassId) (fields params : List String)
    (loc : Location) (body : List Stmt) (args : List Justified) (why : ReasonId) : Prop where
  inherits : s.FieldsOf id (s.allFields id)
  lands : args.length = params.length → s.calls.isFull = false →
    ∃ called now, s.Initialized id fields params args s.scopes.size now ∧
      ∀ steps, Because.newObject (.within (steps + 3)) className args why s =
        endConstructor (.ofMethod id (constructor fields params loc body)) s.scopes.size className
          args why (runStatements (.within (steps + 2)) called body now)
  refuses : args.length ≠ params.length → ∃ failure left,
    failure.fault = .arityMismatch initName (params.length + 1) (args.length + 1) ∧
    (∀ name ∈ s.allFields id, ∃ v, left.field? (.object s.scopes.size) name = some (.none v)) ∧
    ∀ inner other : Inner, inner.call = Because.callFunction other →
      Because.newObject inner className args why s = .failed failure left

/-- A declaration that is executed in a session in order gives the class its constructor, and the
session stays in order. -/
lemma InOrder.exec_declares (h : s.InOrder) {decl : Class}
    (initializes : Initializes fields params loc body decl) {steps : Nat} {place : Location}
    {flow : Flow}
    (done : execStmt (.within steps) (.declareClass place decl) why s = .done flow s') :
    s'.InOrder ∧ s'.lookupClass? decl.name = some s.classes.size ∧
      ∃ f, s'.Declared s.classes.size f fields params loc body := by
  have kept : Kept fun _ => True := fun _ _ _ _ => trivial
  have left : (execStmt (.within steps) (.declareClass place decl) why s).session? = some s' := by
    rw [done]
    rfl
  have ends : (declareClass decl why >>= fun _ => pure Flow.normal : Eval Flow) s =
    .done flow s' := done
  obtain ⟨_, _, declares, rest⟩ := Action.done_of_bind ends
  cases rest
  exact ⟨((h.keeps_stmt kept trivial (.declareClass place decl) why).left steps _ left).1,
    h.declares_class initializes declares⟩

/-- In sessions that can come about, and at every moment of their runs, a class that is declared with
fields and then with a constructor is from then on a class whose objects are made so: if all fields
of an object have names of their own, and the parameters too, the arguments are in the fields of the
class that the parameters are named like when the body of the constructor begins. -/
theorem Reachable.arguments_land (h : s.Reachable) (steps : Nat) (program : Program) :
    s.InOrder ∧ (s.Throughout steps program fun _ now => now.InOrder) ∧
    ∀ now : Session, now.InOrder → ∀ fields params loc body,
      (∀ steps decl place why flow left, Initializes fields params loc body decl →
        execStmt (.within steps) (.declareClass place decl) why now = .done flow left →
        left.InOrder ∧ left.lookupClass? decl.name = some now.classes.size ∧
          ∃ f, left.Declared now.classes.size f fields params loc body) ∧
      ∀ id f, now.Declared id f fields params loc body →
        (∀ stmt why, now.KeepsThrough (·.Declared id f fields params loc body)
          (execStmt · stmt why)) ∧
        (∀ program, now.KeepsThrough (·.Declared id f fields params loc body)
          (Because.runProgram · program)) ∧
        ∀ className args why, now.lookupClass? className = some id →
          (now.classAt id).nativeBase = none → (now.allFields id ++ [classField]).Nodup →
          (selfName :: params).Nodup → now.graph.Knows (why :: reasons args) →
          now.Fills className id fields params loc body args why := by
  refine ⟨h.inOrder, h.throughout steps program fun inOrder _ => inOrder,
    fun now inOrder fields params loc body => ⟨?_, fun id f declared => ⟨?_, ?_, ?_⟩⟩⟩
  · exact fun _ _ _ _ _ _ initializes done => inOrder.exec_declares initializes done
  · exact fun stmt why => inOrder.keeps_stmt declared_kept declared stmt why
  · exact fun program => inOrder.keeps_program declared_kept declared program
  · intro className args why found plain distinct apart known
    have fieldsOf := inOrder.rooted.fieldsOf id
    exact ⟨fieldsOf, declared.lands found plain distinct known fieldsOf apart,
      declared.refuses found plain distinct known⟩

/-- A class with one field. -/
def base : Program := [.declareClass .builtin (ClassDecl.withFields (ClassDecl.start "Base") ["x"])]

/-- A class derived from it with two fields. Its constructor has a parameter that is named like the
inherited field, and one that is named like the second field. -/
def derived : Class :=
  ClassDecl.start "Derived" |>.inherit "Base" |>.withFields ["a", "b"]
    |>.init .builtin ["x", "b"] [.raise .builtin "begun"]

/-- Only the second field gets an argument. -/
theorem Reachable.arguments_land_of_derived : (Session.start {} {}).Reachable ∧
    ∃ s left now : Session, (Session.start {} {}).LeadsTo s ∧
      execStmt (.within 1) (.declareClass .builtin derived) 0 s = .done .normal left ∧
      (∃ v, now.field? (.object left.scopes.size) "b" = some ⟨.bool true, v⟩) ∧
      (∃ v, now.field? (.object left.scopes.size) "a" = some (.none v)) ∧
      ∃ v, now.field? (.object left.scopes.size) "x" = some (.none v) := by
  have reachable := Reachable.start {} {}
  have runs : ((Because.runProgram (.within 4) base (Session.start {} {})).session?.map fun s =>
      (execStmt (.within 1) (.declareClass .builtin derived) 0 s).result?.map fun result =>
        decide (s.classes.size = 6 ∧ result.1 = .normal ∧
          (result.2.classAt 6).nativeBase = none ∧ result.2.allFields 6 = ["x", "a", "b"] ∧
          0 < result.2.graph.size ∧ result.2.calls.isFull = false)) = some (some true) := by
    decide +kernel
  obtain ⟨s, led, executes⟩ := Option.map_eq_some_iff.1 runs
  obtain ⟨⟨flow, left⟩, ends, facts⟩ := Option.map_eq_some_iff.1 executes
  obtain ⟨size, rfl, plain, all, recorded, room⟩ := of_decide_eq_true facts
  have ends := Outcome.eq_done ends
  have leads : (Session.start {} {}).LeadsTo s := ⟨4, base, led⟩
  obtain ⟨inOrder, -, makes⟩ := (reachable.run leads).arguments_land 0 []
  have initializes :
      Initializes ["a", "b"] ["x", "b"] .builtin [.raise .builtin "begun"] derived :=
    ⟨_, rfl, .here⟩
  obtain ⟨inOrder', found, f, declared⟩ := (makes s inOrder _ _ _ _).1 _ _ _ _ _ _ initializes ends
  rw [size] at found declared
  obtain ⟨-, -, fills⟩ := ((reachable.run leads).arguments_land 0 []).2.2 left inOrder' ["a", "b"]
    ["x", "b"] .builtin [.raise .builtin "begun"] |>.2 6 f declared
  have known : left.graph.Knows (0 :: reasons [⟨.none, 0⟩, ⟨.bool true, 0⟩]) :=
    List.forall_mem_cons.2 ⟨recorded, List.forall_mem_cons.2
      ⟨recorded, List.forall_mem_singleton.2 recorded⟩⟩
  obtain ⟨-, lands, -⟩ := fills "Derived" _ 0 found plain (by rw [all]; decide) (by decide) known
  obtain ⟨-, now, initialized, -⟩ := lands rfl room
  refine ⟨reachable, s, left, now, leads, ends, ?_, ?_, ?_⟩
  · exact initialized.copied "b" _ (List.mem_cons_of_mem _ List.mem_cons_self) (by decide)
  · exact initialized.empty "a" (by rw [all]; decide) (by decide)
  · exact initialized.empty "x" (by rw [all]; decide) (by decide)

end Session

end Because
