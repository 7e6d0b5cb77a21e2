import Because.Proofs.Alteration
import Because.Proofs.ClassNames

/-!
# Built-in classes in working order

The built-in classes keep their numbers and their methods: no program takes a method out of their
tables or puts another one in its place. As long as its name denotes a built-in class, objects of
it are made by that name, and its methods do what they are there for: they may record reasons and
make objects, and whatever else there is stays as it was.
-/

namespace Because

/-- The number of a built-in class. Sessions declare them first, in this order. -/
def Builtin.classId (builtin : Builtin) : ClassId := Builtin.all.idxOf builtin

namespace Session

variable {s s' s'' : Session} {builtin : Builtin}

/-! ## Methods -/

/-- The name of the class is bound to the class itself, as it is when the session starts. -/
def Names (s : Session) (builtin : Builtin) : Prop :=
  s.lookupClass? builtin.name = some builtin.classId

instance (s : Session) (builtin : Builtin) : Decidable (s.Names builtin) :=
  inferInstanceAs (Decidable (_ = _))

/-- The method is in the table of the built-in class, where it may not be declared again, and hands
over to the state of its receiver. -/
structure Declares (s : Session) (builtin : Builtin) (method : String) (params : List String)
    (f : FunctionId) : Prop where
  table : (s.classAt builtin.classId).methods.get? method = some f
  bound : s.scopes.binds (s.classAt builtin.classId).implScope method = true
  made : Nat.lt f s.functions.size
  function : s.functionAt f = Builtin.function builtin.classId method params

/-- The class is there, and has all of its methods. -/
structure Equips (s : Session) (builtin : Builtin) : Prop where
  made : Nat.lt builtin.classId s.classes.size
  ofClass : (s.classAt builtin.classId).builtin = some builtin
  native : (s.classAt builtin.classId).nativeBase = some builtin.classId
  declares : ∀ {method params}, (method, params) ∈ builtin.methods →
    ∃ f, s.Declares builtin method params f

/-- All built-in classes are there, and have all of their methods. -/
def Equipped (s : Session) : Prop := ∀ builtin, s.Equips builtin

/-- Objects of a built-in class get a state of this class. -/
lemma Equips.nativeBuiltin? (h : s.Equips builtin) :
    s.nativeBuiltin? builtin.classId = some builtin := by
  rw [Session.nativeBuiltin?, h.native, Option.bind_some, h.ofClass]

/-- What is bound stays bound. -/
lemma Change.binds (change : s.Change s') {i : ScopeId} {name : String}
    (bound : s.scopes.binds i name = true) : s'.scopes.binds i name = true := by
  have found : (s.scopes.local? i name).isSome := bound
  change (s'.scopes.local? i name).isSome
  cases change.rebound i name with
  | same same => rwa [same]
  | new unbound =>
    rw [unbound] at found
    cases found
  | assigned _ assigned => rw [assigned, Option.isSome_some]

/-- A method that a class has is not declared again. -/
lemma Change.method (change : s.Change s') {id : ClassId} {method : String} {f : FunctionId}
    (lt : Nat.lt id s.classes.size) (table : (s.classAt id).methods.get? method = some f)
    (bound : s.scopes.binds (s.classAt id).implScope method = true) :
    (s'.classAt id).methods.get? method = some f := by
  cases change with
  | @makeClass scope classDef =>
    have same := classAt_withClass s scope classDef id
    rw [withClass, if_neg (Nat.ne_of_lt lt)] at same
    rw [same, table]
  | @makeMethod other name g why _ free =>
    have same := classAt_withMethod s other name g why id
    rw [withMethod] at same
    rw [same]
    split
    · rename_i here
      obtain ⟨rfl, -⟩ := here
      have ne : method ≠ name := by
        rintro rfl
        cases free.symm.trans bound
      rw [Assoc.get?_insert, if_neg ne, table]
    · exact table
  | _ => exact table

/-- No function is taken away. -/
lemma Change.functions_size (change : s.Change s') : s.functions.size ≤ s'.functions.size := by
  cases change with
  | makeFunction => exact Nat.le.intro (Array.size_push ..).symm
  | _ => exact Nat.le_refl _

/-- Functions stay what they are once they have been defined. -/
lemma Change.functionAt (change : s.Change s') {f : Nat} (lt : f < s.functions.size) :
    s'.functionAt f = s.functionAt f := by
  cases change with
  | @makeFunction function =>
    have same := functionAt_withFunction s function f
    rw [withFunction, if_neg (Nat.ne_of_lt lt)] at same
    exact same
  | _ => rfl

/-- No change takes a built-in class or one of its methods away. -/
lemma equipped_kept : Kept Equipped := by
  intro s s' change h builtin
  have equips := h builtin
  have same := change.classAt equips.made
  refine ⟨Nat.lt_of_lt_of_le equips.made change.classes_size, ?_, ?_, fun {method params} mem => ?_⟩
  · rw [same, equips.ofClass]
  · rw [same, equips.native]
  · obtain ⟨f, declares⟩ := equips.declares mem
    refine ⟨f, change.method equips.made declares.table declares.bound, ?_, ?_, ?_⟩
    · rw [same]
      exact change.binds declares.bound
    · exact Nat.lt_of_lt_of_le declares.made change.functions_size
    · rw [change.functionAt declares.made, declares.function]

/-- The built-in class is there, and its table names all of its methods. -/
def Lists (s : Session) (builtin : Builtin) : Prop :=
  builtin.classId < s.classes.size ∧
  (s.classAt builtin.classId).builtin = some builtin ∧
  (s.classAt builtin.classId).nativeBase = some builtin.classId ∧
  ∀ method ∈ builtin.methods,
    s.scopes.binds (s.classAt builtin.classId).implScope method.1 = true ∧
    ∃ f ∈ (s.classAt builtin.classId).methods.get? method.1, f < s.functions.size ∧
      (s.functionAt f).name = method.1 ∧ (s.functionAt f).owner = some builtin.classId

instance (s : Session) (builtin : Builtin) : Decidable (s.Lists builtin) :=
  inferInstanceAs (Decidable (_ ∧ _))

/-- A new session has all built-in classes, and in their tables the names of all their methods. It
is enough to look at one such session, as the settings make no difference. -/
lemma start_lists (config : Config) (console : Console) (builtin : Builtin) :
    (start config console).Lists builtin := by
  have known : ∀ builtin ∈ Builtin.all, (start {} {}).Lists builtin := by
    decide +kernel
  have same (s : Session) : (s.under config console).Lists builtin ↔ s.Lists builtin := Iff.rfl
  rw [start_eq_under, same]
  exact known builtin (by cases builtin <;> decide)

/-- A built-in class has no two methods of one name. -/
lemma Builtin.methods_unique {builtin : Builtin} {method method' : String × List String}
    (mem : method ∈ builtin.methods) (mem' : method' ∈ builtin.methods)
    (same : method.1 = method'.1) : method = method' := by
  have unique : ∀ builtin ∈ Builtin.all, ∀ m ∈ builtin.methods, ∀ m' ∈ builtin.methods,
      m.1 = m'.1 → m = m' := by
    decide
  exact unique builtin (by cases builtin <;> decide) method mem method' mem' same

/-- In a new session the built-in classes are in working order. -/
lemma start_equipped (config : Config) (console : Console) : (start config console).Equipped := by
  intro builtin
  obtain ⟨made, ofClass, native, methods⟩ := start_lists config console builtin
  have wired : (start config console).Wired :=
    (Reachable.start config console).keeps wired_kept blank_wired
  refine ⟨made, ofClass, native, fun {method params} mem => ?_⟩
  obtain ⟨bound, f, table, lt, name, owner⟩ := methods (method, params) mem
  obtain ⟨other, mem', function⟩ := wired.wires f builtin.classId builtin owner ofClass
  obtain rfl : (method, params) = other := by
    refine Builtin.methods_unique mem mem' ?_
    rw [← name, function]
    rfl
  exact ⟨f, table, bound, lt, function⟩

/-- In sessions that can come about, the built-in classes are in working order. -/
lemma Reachable.equipped (h : s.Reachable) : s.Equipped := by
  obtain ⟨config, console, course⟩ := h.of_start
  exact course.kept equipped_kept (start_equipped config console)

/-! ## What calls of built-in methods rest on -/

/-- The built-in classes are in working order, and what global variables hold rests on reasons that
have been recorded. -/
structure Works (s : Session) : Prop where
  equipped : s.Equipped
  made : Nat.lt globalScope s.scopes.size
  topmost : s.scopes.parent? globalScope = none
  known : ∀ name info, s.global? name = some info → Nat.lt info.why s.graph.size

/-- In a session that is sound and in order, the built-in classes can be relied on. -/
lemma InOrder.works (inOrder : s.InOrder) (sound : s.Sound) (equipped : s.Equipped) :
    s.Works where
  equipped := equipped
  made := inOrder.global.made
  topmost := inOrder.global_parent
  known _ _ found := (sound.known.scopes.local? found).2

namespace Adds

/-- As long as reasons, objects and scopes are only added, a class goes by its name. -/
lemma names (h : s.Adds s') (works : s.Works) (names : s.Names builtin) : s'.Names builtin := by
  rw [Names, h.lookupClass? works.made, names]

/-- As long as reasons, objects and scopes are only added, the built-in classes can be relied on. -/
lemma works (h : s.Adds s') (works : s.Works) : s'.Works where
  equipped builtin := by
    have equips := works.equipped builtin
    refine ⟨?_, ?_, ?_, fun {method params} mem => ?_⟩
    · rw [h.classes]
      exact equips.made
    · rw [h.classAt, equips.ofClass]
    · rw [h.classAt, equips.native]
    · obtain ⟨f, declares⟩ := equips.declares mem
      refine ⟨f, ?_, ?_, ?_, ?_⟩
      · rw [h.classAt, declares.table]
      · rw [h.classAt, h.binds (Scopes.lt_of_binds declares.bound)]
        exact declares.bound
      · rw [h.functions]
        exact declares.made
      · rw [h.functionAt, declares.function]
  made := Nat.lt_of_lt_of_le works.made h.scopes
  topmost := by
    rw [Scopes.parent?, h.old _ works.made, ← Scopes.parent?, works.topmost]
  known name info found := by
    rw [global?, h.local? works.made, ← global?] at found
    exact Nat.lt_of_lt_of_le (works.known name info found) h.graph

end Adds

/-! ## Calls of built-in methods -/

variable {function : FunctionDef} {bindings : Bindings} {entries : List (String × Justified)}
  {graph : Graph} {why : ReasonId}

/-- Parameters that are called differently are all bound. -/
lemma bindParams_done (scope : Scope) (distinct : (entries.map Prod.fst).Nodup)
    (free : ∀ entry ∈ entries, scope.bindings.contains entry.1 = false) :
    bindParams s.scopes.size entries (s.withScope scope) =
      .done () (s.withScope { scope with bindings := scope.bindings ++ entries }) := by
  induction entries generalizing scope with
  | nil =>
    rw [List.append_nil]
    rfl
  | cons entry rest ih =>
    obtain ⟨param, arg⟩ := entry
    obtain ⟨absent, others⟩ := List.forall_mem_cons.1 free
    obtain ⟨new, distinct⟩ := List.nodup_cons.1 distinct
    have first : Action.declare s.scopes.size param arg (s.withScope scope) =
        .done () (s.withScope { scope with bindings := scope.bindings ++ [(param, arg)] }) := by
      simp only [Action.declare, Scopes.declare, Scopes.binds, scopeAt_withScope, if_true, absent,
        Bool.false_eq_true, if_false]
      simp only [Scopes.bind, withScope, Scopes.update_push, Assoc.insert_of_absent absent]
    rw [bindParams, Action.bind_done first, ih _ distinct fun entry mem => ?_, List.append_assoc]
    · rfl
    · have ne : param ≠ entry.1 := fun same => new (List.mem_map.2 ⟨entry, mem, same.symm⟩)
      rw [Assoc.contains_append, others entry mem, Bool.false_or]
      simp only [Assoc.contains, Assoc.get?, if_neg ne, Option.isSome_none]

/-- An entry of a list without repeated names is found by its name. -/
lemma get?_of_mem {entry : String × Justified} (distinct : (entries.map Prod.fst).Nodup)
    (mem : entry ∈ entries) : Assoc.get? entries entry.1 = some entry.2 := by
  induction entries with
  | nil => cases mem
  | cons first rest ih =>
    obtain ⟨new, distinct⟩ := List.nodup_cons.1 distinct
    cases mem with
    | head => simp only [Assoc.get?, if_true]
    | tail _ mem =>
      have ne : first.1 ≠ entry.1 := fun same => new (List.mem_map.2 ⟨entry, mem, same.symm⟩)
      simp only [Assoc.get?, if_neg ne, ih distinct mem]

/-- The body of a function sees its own scope and the global one. -/
lemma Works.bodySession_visible (works : s.Works) :
    (s.bodySession function bindings graph).visible = [s.scopes.size, globalScope] := by
  have ne : globalScope ≠ s.scopes.size := Nat.ne_of_lt works.made
  have root : (s.bodySession function bindings graph).scopes.parent? globalScope = none := by
    rw [Scopes.parent?, scopeAt_bodySession, if_neg ne, ← Scopes.parent?, works.topmost]
  obtain ⟨n, size⟩ := Nat.exists_eq_succ_of_ne_zero ne.symm
  have last : (s.bodySession function bindings graph).scopes.chainFrom n.succ globalScope =
      [globalScope] := by
    rw [Scopes.chainFrom, root]
  rw [← size] at last
  change (s.bodySession function bindings graph).scopes.chain s.scopes.size = _
  simp only [Scopes.chain, Scopes.chainFrom, Scopes.parent?, scopeAt_bodySession, if_true,
    callScope, last]

/-- In the body of a function, variables are its parameters or global. -/
lemma Works.bodySession_knows (works : s.Works) (grows : s.graph.size ≤ graph.size)
    (known : ∀ entry ∈ bindings, Nat.lt entry.2.why graph.size) :
    (s.bodySession function bindings graph).KnowsVariables := by
  intro name stored found
  have chain : (s.bodySession function bindings graph).scopes.chain
      (s.bodySession function bindings graph).currentScope = _ := works.bodySession_visible
  rw [tryGet_eq, chain] at found
  obtain ⟨i, mem, found⟩ := List.exists_of_findSome?_eq_some found
  rw [Scopes.local?, scopeAt_bodySession] at found
  split at found
  · exact known _ (Assoc.mem_of_get? found)
  · rename_i other
    obtain rfl := (List.mem_pair.1 mem).resolve_left other
    exact Nat.lt_of_lt_of_le (works.known name stored found) grows

/-- At the start of a body only reasons and its scope have come on top. -/
lemma bodySession_adds (grows : s.graph.size ≤ graph.size) :
    s.Adds (s.bodySession function bindings graph) where
  graph := grows
  scopes := Nat.le.intro (Scopes.size_push ..).symm
  old i lt := (scopeAt_bodySession i).trans (if_neg (Nat.ne_of_lt lt))
  classes := rfl
  functions := rfl

/-- The body of the function has begun for a call from `s`. -/
structure Begun (s : Session) (function : FunctionDef) (args : List Justified) (called : ReasonId)
    (now : Session) : Prop where
  adds : s.Adds now
  entered : now.entered = s.scopes.size :: s.entered
  calls : now.calls = s.calls.enter function.frame
  console : now.console = s.console
  recorded : Nat.lt called now.graph.size
  bound : List.Forall₂ (fun name arg => now.scopes.tryGet now.currentScope name = some arg)
    function.params args
  knows : now.KnowsVariables
  seen : ∀ i ∈ now.visible, Nat.lt i now.scopes.size

/-- In the body of a function, its parameters are bound to the arguments. -/
lemma Works.bodySession_begun (works : s.Works) {args : List Justified}
    (counts : args.length = function.params.length) (distinct : function.params.Nodup)
    (known : ∀ arg ∈ args, Nat.lt arg.why s.graph.size) (grows : s.graph.size < graph.size) :
    s.Begun function args s.graph.size
      (s.bodySession function (function.params.zip args) graph) := by
  have distinct : ((function.params.zip args).map Prod.fst).Nodup := by
    rwa [List.map_fst_zip (Nat.le_of_eq counts.symm)]
  refine ⟨bodySession_adds (Nat.le_of_lt grows), rfl, rfl, rfl, grows, ?_, ?_, ?_⟩
  · refine List.forall₂_iff_zip.2 ⟨counts.symm, fun {name arg} mem => ?_⟩
    exact tryGet_bodySession (get?_of_mem distinct mem)
  · refine works.bodySession_knows (Nat.le_of_lt grows) fun entry mem => ?_
    exact Nat.lt_trans (known entry.2 (List.of_mem_zip mem).2) grows
  · have size : (s.bodySession function (function.params.zip args) graph).scopes.size =
        s.scopes.size + 1 := Scopes.size_push ..
    rw [works.bodySession_visible, size]
    intro i mem
    obtain rfl | rfl := List.mem_pair.1 mem
    · exact Nat.lt_succ_self _
    · exact Nat.lt_succ_of_lt works.made

/-- What is left of a call once its body has ended. -/
def afterCall (s now : Session) : Session :=
  { now with entered := s.entered, calls := s.calls }

/-- With a body that ends so, a call gives this value. -/
inductive Brings (s : Session) : Flow → Value → Prop where
  | falls : Brings s .normal .none
  | none {why : ReasonId} : Nat.lt why s.graph.size → Brings s (.returned (.none why)) .none
  | object {i : ScopeId} {why : ReasonId} : Nat.lt why s.graph.size →
    Brings s (.returned ⟨.object i, why⟩) (.object i)

/-- The outcome is this value, and besides it only reasons have been recorded. -/
def Concludes (s : Session) (value : Value) (o : Outcome Failure Justified) : Prop :=
  ∃ why s', o = .done ⟨value, why⟩ s' ∧ s.Notes s' ∧ Nat.lt why s'.graph.size

/-- The outcome is this value, and besides it only reasons have been recorded, none of which
conceals an older one. -/
def Reports (s : Session) (value : Value) (o : Outcome Failure Justified) : Prop :=
  ∃ why s', o = .done ⟨value, why⟩ s' ∧ s.Tells s' ∧ Nat.lt why s'.graph.size

/-- A value that a call gives rests on a reason that has been recorded. -/
lemma Brings.result {flow : Flow} {value : Value} (h : s.Brings flow value)
    (function : FunctionDef) : s.Reports value (callResult function flow s) := by
  cases h with
  | falls =>
    have records := s.records_text s!"{function.name} did not reach any return statement"
    exact ⟨_, _, rfl, records.toTells, records.fresh⟩
  | none recorded =>
    obtain ⟨s', told, records⟩ := @record_records s
      (.conj s!"{function.name} explicitly returned None") _ (List.forall_mem_singleton.2 recorded)
      trivial Option.none
    refine ⟨_, s', ?_, records.toTells, records.fresh⟩
    simp only [callResult, Justified.none]
    exact Action.bind_done told
  | object recorded => exact ⟨_, s, rfl, .refl s, recorded⟩

/-- A call ends as its body does, which runs in `now`: it gives what the body returns, or fails with
the failure of the body, to which it attaches its trace. -/
structure EndsLike (s now : Session) (body : Outcome Failure Flow)
    (call : Outcome Failure Justified) : Prop where
  gives {flow value s'} : body = .done flow s' → now.SameStacks s' → s'.Brings flow value →
    (s.afterCall s').Reports value call
  fails {failure s'} : body = .failed failure s' → now.SameStacks s' →
    ∃ calls : CallStack, call = .failed (calls.attach failure) (s.afterCall s')

/-- It makes no difference which reasons are recorded before the call and before its body. -/
lemma EndsLike.notes {now later : Session} {body : Outcome Failure Flow}
    {call : Outcome Failure Justified} (ends : s'.EndsLike now body call) (before : s.Notes s')
    (within : now.Notes later) : s.EndsLike later body call := by
  have left (t : Session) : s'.afterCall t = s.afterCall t := by
    rw [before.same]
    rfl
  have balanced := (Quiet.of_notes within).toSameStacks
  refine ⟨fun {flow value t} done same brings => ?_, fun {failure t} failed same => ?_⟩
  · rw [← left]
    exact ends.gives done (balanced.trans same) brings
  · rw [← left]
    exact ends.fails failed (balanced.trans same)

/-- The body of the function has begun because it has been called for this reason. -/
structure Opens (s : Session) (function : FunctionDef) (args : List Justified)
    (why called : ReasonId) (now : Session) : Prop where
  called : called = s.graph.size
  body : ∃ location, now = s.bodySession function (function.params.zip args)
    (s.graph.push (.conj s!"called {function.name}") [why] location)

/-- A list of one statement runs like the statement. -/
lemma runStatements_one (inner : Inner) (stmt : Stmt) :
    runStatements inner why [stmt] = inner.exec stmt why := by
  funext s
  simp only [runStatements, Bind.bind]
  cases inner.exec stmt why s with
  | done flow t => cases flow <;> rfl
  | failed | exhausted => rfl

/-- What comes of a call once the body of the function has ended. -/
def endCall (function : FunctionDef) : Outcome Failure Flow → Outcome Failure Justified
  | .done flow now =>
    match callResult function flow { now with entered := now.entered.tail } with
    | .done result now => .done result { now with calls := now.calls.pop }
    | .failed failure now => .failed (now.calls.attach failure) { now with calls := now.calls.pop }
    | .exhausted => .exhausted
  | .failed failure now =>
    .failed (now.calls.attach failure)
      { now with entered := now.entered.tail, calls := now.calls.pop }
  | .exhausted => .exhausted

/-- A call for which there is room is its body, in a session in which only this has begun. -/
lemma callFunction_opens {f : FunctionId} {args : List Justified} (is : s.functionAt f = function)
    (counts : args.length = function.params.length) (distinct : function.params.Nodup)
    (room : s.calls.isFull = false) (recorded : Nat.lt why s.graph.size) :
    ∃ now, s.Opens function args why s.graph.size now ∧ s.graph.size < now.graph.size ∧
      ∀ inner : Inner, Because.callFunction inner f args why s =
        endCall function (runStatements inner s.graph.size function.body now) := by
  -- The body begins in the session with the frame, the scope and the parameters: everything the
  -- call does up to there is computed, and what follows is left as it is.
  let entries := function.params.zip args
  have names : entries.map Prod.fst = function.params :=
    List.map_fst_zip (Nat.le_of_eq counts.symm)
  let began : Session := { s with calls := s.calls.enter function.frame }
  let body : Session := began.withScope { callScope function with bindings := entries }
  have binds : bindParams s.scopes.size entries (began.withScope (callScope function)) =
      .done () body :=
    bindParams_done (s := began) (callScope function) (names.symm ▸ distinct) fun _ _ => rfl
  obtain ⟨t, told, records⟩ := @record_records body (.conj s!"called {function.name}") _
    (List.forall_mem_singleton.2 recorded) trivial (some function.loc)
  have told : Action.conjAt s!"called {function.name}" [why] function.loc body =
      .done s.graph.size t := told
  let now := s.bodySession function entries t.graph
  have enters : { t with entered := s.scopes.size :: t.entered } = now := by
    rw [records.same]
    rfl
  obtain ⟨location, pushed⟩ := records.pushed
  refine ⟨now, ⟨rfl, location, congrArg (s.bodySession function entries) pushed⟩, records.fresh,
    fun inner => ?_⟩
  have begins : runFunction inner function args why began =
      (Action.inScope s.scopes.size (runStatements inner s.graph.size function.body) >>=
        callResult function) t := by
    rw [runFunction_eq, Action.bind_done binds, runBody, Action.bind_done told]
  rw [Comparison.callFunction_eq, is, if_pos counts, Action.inCall, CallStack.push, room,
    if_neg Bool.false_ne_true]
  dsimp only
  rw [begins]
  simp only [Bind.bind, Action.inScope, enters]
  cases runStatements inner s.graph.size function.body now with
  | done flow left =>
    dsimp only [endCall]
    cases callResult function flow { left with entered := left.entered.tail } <;> rfl
  | failed failure left => rfl
  | exhausted => rfl

/-- What the body leaves is left by the call, but for the scope and the call themselves. -/
lemma endCall_endsLike {args : List Justified} {called : ReasonId} {now : Session}
    (begun : s.Begun function args called now) (body : Outcome Failure Flow) :
    s.EndsLike now body (endCall function body) := by
  constructor
  · rintro flow value s' rfl same brings
    let left : Session := { s' with entered := s'.entered.tail }
    have brings : left.Brings flow value := by
      cases brings with
      | falls => exact .falls
      | none recorded => exact .none recorded
      | object recorded => exact .object recorded
    obtain ⟨why', t, result, notes, recorded⟩ := brings.result function
    refine ⟨why', { t with calls := t.calls.pop }, ?_,
      ⟨⟨?_, notes.graph, notes.ordered⟩, notes.grows⟩, recorded⟩
    · simp only [endCall]
      rw [result]
    · rw [notes.same, afterCall]
      simp only [left]
      rw [same.entered, same.calls, begun.entered, begun.calls]
      rfl
  · rintro failure s' rfl same
    refine ⟨s'.calls, ?_⟩
    simp only [endCall, afterCall]
    rw [same.entered, same.calls, begun.entered, begun.calls]
    rfl

/-- A call for which there is room begins with its body. -/
lemma Works.callFunction_begun (works : s.Works) {f : FunctionId} {args : List Justified}
    (is : s.functionAt f = function) (counts : args.length = function.params.length)
    (distinct : function.params.Nodup) (room : s.calls.isFull = false)
    (known : s.graph.Knows (why :: reasons args)) :
    ∃ called now, s.Begun function args called now ∧ s.Opens function args why called now ∧
      ∀ inner : Inner, s.EndsLike now (runStatements inner called function.body now)
        (Because.callFunction inner f args why s) := by
  obtain ⟨caller, others⟩ := List.forall_mem_cons.1 known
  obtain ⟨now, opens, fresh, runs⟩ := callFunction_opens is counts distinct room caller
  have begun : s.Begun function args s.graph.size now := by
    obtain ⟨-, location, rfl⟩ := opens
    exact works.bodySession_begun counts distinct
      (fun _ mem => others _ (List.mem_map_of_mem mem)) fresh
  refine ⟨s.graph.size, now, begun, opens, fun inner => ?_⟩
  rw [runs]
  exact endCall_endsLike begun _

/-- The arguments have been handed over to a built-in method. -/
structure Handed (s : Session) (args : List Justified) (now : Session) (history : ReasonId)
    (infos : List Justified) : Prop where
  adds : s.Adds now
  calls : ∃ frame, now.calls = s.calls.enter frame
  console : now.console = s.console
  values : infos.map Justified.value = args.map Justified.value
  known : now.graph.Knows (history :: reasons infos)

/-- It makes no difference which reasons are recorded before. -/
lemma Handed.after {now : Session} {args infos : List Justified} {history : ReasonId}
    (before : s.Notes s') (h : s'.Handed args now history infos) :
    s.Handed args now history infos where
  adds := (Adds.of_notes before).trans h.adds
  calls := (Quiet.of_notes before).calls ▸ h.calls
  console := h.console.trans (Quiet.of_notes before).console
  values := h.values
  known := h.known

/-- What holds of a value goes on to hold as long as no object gets another state. -/
def Stays (P : Value → Session → Prop) : Prop :=
  ∀ ⦃s s' : Session⦄ ⦃value written⦄, s.Alters written (fun _ => False) s' → P value s → P value s'

/-- What stays as long as no object gets another state stays if reasons and objects are only added.
-/
lemma Stays.adds {P : Value → Session → Prop} {value : Value} (stays : Stays P) (adds : s.Adds s')
    (holds : P value s) : P value s' :=
  stays adds.unaltered holds

/-- The outcome is an object of which `P` holds, and besides it only reasons and other objects have
been made. -/
structure GivenAs {ε : Type} (s : Session) (P : Value → Session → Prop) (o : Outcome ε Justified)
    (object : ScopeId) (why : ReasonId) (s' : Session) : Prop where
  done : o = .done ⟨.object object, why⟩ s'
  adds : s.Adds s'
  quiet : s.Quiet s'
  recorded : Nat.lt why s'.graph.size
  holds : P (.object object) s'

/-- An object is given of which `P` holds. -/
def Gives {ε : Type} (s : Session) (P : Value → Session → Prop) (o : Outcome ε Justified) : Prop :=
  ∃ object why s', s.GivenAs P o object why s'

/-- What is given after other things have come on top is given in all. -/
lemma Gives.after {ε : Type} {P : Value → Session → Prop} {o : Outcome ε Justified}
    (adds : s.Adds s') (quiet : s.Quiet s') (h : s'.Gives P o) : s.Gives P o := by
  obtain ⟨object, why, t, gives⟩ := h
  exact ⟨object, why, t, gives.done, adds.trans gives.adds, quiet.trans gives.quiet,
    gives.recorded, gives.holds⟩

/-- A single argument is handed over. -/
lemma Handed.one {info : Justified} {now : Session} {history : ReasonId} {infos : List Justified}
    (h : s.Handed [info] now history infos) : ∃ given, infos = [⟨info.value, given⟩] ∧
      now.graph.Knows [history, given] := by
  obtain ⟨⟨value, given⟩, rfl, same⟩ := List.map_eq_singleton_iff.1 h.values
  cases same
  exact ⟨given, rfl, h.known⟩

variable {P : Value → Session → Prop} {receiver : Justified} {handle : Handle} {method : String}
  {params : List String} {args : List Justified} {f : FunctionId}

/-- No parameter of a built-in method is called like another one. -/
lemma Builtin.params_nodup (declared : (method, params) ∈ builtin.methods) :
    (selfName :: params).Nodup := by
  have distinct : ∀ builtin ∈ Builtin.all, ∀ method ∈ builtin.methods,
      (selfName :: method.2).Nodup := by
    decide
  exact distinct builtin (by cases builtin <;> decide) _ declared

/-- What names mean that are bound to arguments. -/
lemma meanings_of_bound {names : List String} (bound : List.Forall₂ (fun name arg =>
    s.scopes.tryGet s.currentScope name = some arg) names args) :
    names.mapM s.meaning? = some (args.map Justified.value) := by
  induction bound with
  | nil => rfl
  | cons first _ ih =>
    rw [List.mapM_cons, meaning?, first, ih]
    rfl

/-- A call of a method of a built-in class gets to the body of the method. -/
lemma Works.call_begun (works : s.Works) (declared : (method, params) ∈ builtin.methods)
    (is : s.functionAt f = Builtin.function builtin.classId method params)
    (counts : args.length = params.length) (room : s.calls.isFull = false)
    (known : s.graph.Knows (why :: reasons (receiver :: args))) :
    ∃ called now, s.Adds now ∧ (∃ frame, now.calls = s.calls.enter frame) ∧
      now.console = s.console ∧ Nat.lt called now.graph.size ∧ now.KnowsVariables ∧
      now.call? method params = some ⟨receiver.value, method, args.map Justified.value⟩ ∧
      ∀ steps, s.EndsLike now
        ((Inner.within (steps + 1)).exec (.invokeNative .builtin method params) called now)
        ((Inner.within (steps + 2)).call f (receiver :: args) why s) := by
  have counts1 : (receiver :: args).length =
      (Builtin.function builtin.classId method params).params.length := congrArg Nat.succ counts
  obtain ⟨called, now, begun, -, ends⟩ :=
    works.callFunction_begun is counts1 (Builtin.params_nodup declared) room known
  obtain ⟨self, bound⟩ := List.forall₂_cons.1 begun.bound
  refine ⟨called, now, begun.adds, ⟨_, begun.calls⟩, begun.console, begun.recorded, begun.knows, ?_,
    fun steps => ?_⟩
  · simp only [call?, meaning?, self, meanings_of_bound bound]
    rfl
  · rw [← runStatements_one]
    exact ends (.within (steps + 1))

/-- A call of a method of a built-in class gets to the state of its receiver. -/
lemma Works.call_handed (works : s.Works) (declared : (method, params) ∈ builtin.methods)
    (is : s.functionAt f = Builtin.function builtin.classId method params)
    (state : s.handle? receiver.value = some handle) (counts : args.length = params.length)
    (room : s.calls.isFull = false) (known : s.graph.Knows (why :: reasons (receiver :: args))) :
    ∃ i now history infos object shown called, receiver.value = .object i ∧
      s.Handed args now history infos ∧ now.graph.Knows [history, called] ∧ ∀ steps,
        s.EndsLike now
          (handOver (.within steps) i handle method object shown .builtin called history infos now)
          ((Inner.within (steps + 2)).call f (receiver :: args) why s) := by
  obtain ⟨i, object⟩ : ∃ i, receiver.value = .object i := by
    cases value : receiver.value with
    | object i => exact ⟨i, rfl⟩
    | _ =>
      rw [value] at state
      cases state
  obtain ⟨called, body, begun, deeper, console, recorded, knows, receives, ends⟩ :=
    works.call_begun declared is counts room known
  obtain ⟨this, infos, history, object, shown, now, notes, made, given, opens⟩ |
      ⟨failure, now, notes, none, -⟩ :=
    invokeNative_opens knows recorded method params .builtin
  · rw [receives, Option.some.injEq, Call.mk.injEq] at made
    obtain ⟨receives, -, values⟩ := made
    have found : body.handle? this.value = some handle := by
      rw [← receives]
      exact begun.handle? state
    have both : now.graph.Knows [history, called] := List.forall_mem_cons.2
      ⟨given _ List.mem_cons_self,
        List.forall_mem_singleton.2 (Nat.lt_of_lt_of_le recorded notes.graph)⟩
    refine ⟨i, now, history, infos, object, shown, called, ‹_›,
      ⟨begun.trans (.of_notes notes), (Quiet.of_notes notes).calls ▸ deeper,
        (Quiet.of_notes notes).console.trans console, values.symm, given⟩, both, fun steps => ?_⟩
    have hands :
        (Inner.within (steps + 1)).exec (.invokeNative .builtin method params) called body =
          handOver (.within steps) i handle method object shown .builtin called history infos
            now := by
      refine (opens (.within steps)).trans ?_
      rw [found, ← receives, ‹receiver.value = .object i›]
      rfl
    rw [← hands]
    exact (ends steps).notes (.refl s) notes
  · rw [receives] at none
    cases none

section

variable {steps : Nat} (works : s.Works)
  (declared : (method, params) ∈ builtin.methods)
  (is : s.functionAt f = Builtin.function builtin.classId method params)
  (state : s.handle? receiver.value = some handle) (counts : args.length = params.length)
  (room : s.calls.isFull = false) (known : s.graph.Knows (why :: reasons (receiver :: args)))

include works declared is state counts room known

/-- What the method gives is what the call gives, be it an object or None. -/
lemma Works.call_concludes : ∃ i now history infos, receiver.value = .object i ∧
    s.Handed args now history infos ∧ ∀ steps value why' t,
      Native.invoke (.within steps) i handle method history infos now = .done ⟨value, why'⟩ t →
      now.SameStacks t → now.graph.size ≤ t.graph.size → Nat.lt why' t.graph.size →
      value.isObject = true ∨ value = .none →
      (s.afterCall t).Concludes value
        ((Inner.within (steps + 2)).call f (receiver :: args) why s) := by
  obtain ⟨i, now, history, infos, object, shown, called, is, handed, both, ends⟩ :=
    works.call_handed declared is state counts room known
  refine ⟨i, now, history, infos, is, handed, fun steps value why' t done balanced grows fresh
    plain => ?_⟩
  obtain ⟨forwarded, s', hands, notes, fresh⟩ := handOver_done both done grows fresh
  have balanced := balanced.trans (Quiet.of_notes notes).toSameStacks
  have brings : s'.Brings (.returned ⟨value, forwarded⟩) value := by
    cases value with
    | object i => exact .object fresh
    | none => exact .none fresh
    | _ => simp [Value.isObject, Value.scope?] at plain
  obtain ⟨w, s'', ended, notes', recorded⟩ := (ends steps).gives hands balanced brings
  refine ⟨w, s'', ended, ⟨?_, Nat.le_trans notes.graph notes'.graph,
    notes'.ordered ∘ notes.ordered⟩, recorded⟩
  rw [notes'.same, afterCall, afterCall]
  conv_lhs => rw [notes.same]

/-- If the method gives an object, the call does so. -/
lemma Works.call_gives (stays : Stays P)
    (serves : ∀ i now history infos, receiver.value = .object i → s.Handed args now history infos →
      now.Gives P (Native.invoke (.within steps) i handle method history infos now)) :
    s.Gives P ((Inner.within (steps + 2)).call f (receiver :: args) why s) := by
  obtain ⟨i, now, history, infos, is, handed, concludes⟩ :=
    works.call_concludes declared is state counts room known
  obtain ⟨object, why', t, gives⟩ := serves i now history infos is handed
  obtain ⟨w, s', done, notes, fresh⟩ := concludes steps _ why' t gives.done
    gives.quiet.toSameStacks gives.adds.graph gives.recorded (.inl rfl)
  have adds := handed.adds.trans gives.adds
  have left : t.Adds (s.afterCall t) := { Adds.refl t with }
  have quiet : s.Quiet (s.afterCall t) :=
    ⟨⟨rfl, rfl⟩, gives.quiet.console.trans handed.console⟩
  exact ⟨object, w, s', done, (adds.trans left).trans (.of_notes notes),
    quiet.trans (.of_notes notes), fresh, stays.adds (left.trans (.of_notes notes)) gives.holds⟩

/-- If the method fails, the call does so with the fault of the method. -/
lemma Works.call_fails {fault : NativeFault}
    (fails : ∀ i now history infos, receiver.value = .object i → s.Handed args now history infos →
      ∃ now', Native.invoke (.within steps) i handle method history infos now =
        .failed fault now' ∧ now.SameStacks now') :
    ∃ failure s', (Inner.within (steps + 2)).call f (receiver :: args) why s =
        .failed failure s' ∧
      failure.fault = (fault.toFailure handle.builtin.name method).fault := by
  obtain ⟨i, now, history, infos, object, shown, called, is, handed, both, ends⟩ :=
    works.call_handed declared is state counts room known
  obtain ⟨t, failed, balanced⟩ := fails i now history infos is handed
  obtain ⟨calls, ended⟩ := (ends steps).fails (handOver_failed failed) balanced
  exact ⟨_, _, ended, calls.attach_fault _⟩

end

/-! ## Calls by the names of methods -/

/-- A call of a method of a built-in class finds the method, and its receiver has a reason. -/
lemma Works.callMethod_finds (works : s.Works) (declared : (method, params) ∈ builtin.methods)
    (ofClass : s.classOf? receiver.value = some builtin.classId) (args : List Justified)
    (why : ReasonId) :
    ∃ f s1, s1.functionAt f = Builtin.function builtin.classId method params ∧ s.Notes s1 ∧
      s.graph.size < s1.graph.size ∧ ∀ inner : Inner,
        Because.callMethod inner receiver method args why s =
          inner.call f (⟨receiver.value, s.graph.size⟩ :: args) why s1 := by
  obtain ⟨f, declares⟩ := (works.equipped builtin).declares declared
  let s1 : Session := { s with graph := s.graph.push .unknown [] none }
  have size : s1.graph.size = s.graph.size + 1 := Graph.size_push ..
  refine ⟨f, s1, declares.function, .leaf trivial,
    Nat.lt_of_lt_of_eq (Nat.lt_succ_self _) size.symm, fun inner => ?_⟩
  have finds : findMethod builtin.classId method why s = .done f s := by
    simp only [findMethod, Bind.bind, Action.ask, declares.table]
    rfl
  simp only [Because.callMethod, Bind.bind, Action.ask, ofClass, finds]
  rfl

/-- No call gives a result for which there is no room. -/
lemma Works.callMethod_full (works : s.Works) (declared : (method, params) ∈ builtin.methods)
    (ofClass : s.classOf? receiver.value = some builtin.classId)
    (counts : args.length = params.length) (full : s.calls.isFull = true) (steps : Nat)
    (result : Justified) (s' : Session) :
    Because.callMethod (.within steps) receiver method args why s ≠ .done result s' := by
  obtain ⟨f, s1, function, notes, -, calls⟩ := works.callMethod_finds declared ofClass args why
  rw [calls]
  intro done
  cases steps with
  | zero => cases done
  | succ steps =>
    have isFull : s1.calls.isFull = true := by rw [notes.same, full]
    have counts : (⟨receiver.value, s.graph.size⟩ :: args).length =
        (Builtin.function builtin.classId method params).params.length := congrArg Nat.succ counts
    change Because.callFunction (.within steps) f _ why s1 = _ at done
    rw [Comparison.callFunction_eq, function, if_pos counts, Action.inCall_full isFull] at done
    cases done

section

variable {steps : Nat} (works : s.Works)
  (declared : (method, params) ∈ builtin.methods)
  (ofClass : s.classOf? receiver.value = some builtin.classId)
  (state : s.handle? receiver.value = some handle) (counts : args.length = params.length)
  (room : s.calls.isFull = false) (known : s.graph.Knows (why :: reasons args))

include works declared ofClass state known in
/-- The method is called on the receiver, which has kept its state, and with reasons that have been
recorded. -/
lemma Works.callMethod_hands :
    ∃ f self s1, s1.functionAt f = Builtin.function builtin.classId method params ∧ s.Notes s1 ∧
      self.value = receiver.value ∧ s1.handle? self.value = some handle ∧
      s1.graph.Knows (why :: reasons (self :: args)) ∧ ∀ inner : Inner,
        Because.callMethod inner receiver method args why s =
          inner.call f (self :: args) why s1 := by
  obtain ⟨f, s1, is, notes, fresh, calls⟩ := works.callMethod_finds declared ofClass args why
  obtain ⟨caller, others⟩ := List.forall_mem_cons.1 (notes.knows known)
  exact ⟨f, ⟨receiver.value, s.graph.size⟩, s1, is, notes, rfl, (Adds.of_notes notes).handle? state,
    List.forall_mem_cons.2 ⟨caller, List.forall_mem_cons.2 ⟨fresh, others⟩⟩, calls⟩

include works declared ofClass state counts room known

/-- What the method gives is what the call gives. -/
lemma Works.callMethod_gives (stays : Stays P)
    (serves : ∀ i now history infos, receiver.value = .object i → s.Handed args now history infos →
      now.Gives P (Native.invoke (.within steps) i handle method history infos now)) :
    s.Gives P (Because.callMethod (.within (steps + 2)) receiver method args why s) := by
  obtain ⟨f, self, s1, is, notes, same, state1, known1, calls⟩ :=
    works.callMethod_hands declared ofClass state known
  have adds := Adds.of_notes notes
  rw [calls]
  refine ((adds.works works).call_gives declared is state1 counts
    (by rw [notes.same, room]) known1 stays ?_).after adds (.of_notes notes)
  exact fun i now history infos is handed =>
    serves i now history infos (same ▸ is) (handed.after notes)

/-- If the method fails, the call does so with the fault of the method. -/
lemma Works.callMethod_fails {fault : NativeFault}
    (fails : ∀ i now history infos, receiver.value = .object i → s.Handed args now history infos →
      ∃ now', Native.invoke (.within steps) i handle method history infos now =
        .failed fault now' ∧ now.SameStacks now') :
    ∃ failure s', Because.callMethod (.within (steps + 2)) receiver method args why s =
        .failed failure s' ∧
      failure.fault = (fault.toFailure handle.builtin.name method).fault := by
  obtain ⟨f, self, s1, is, notes, same, state1, known1, calls⟩ :=
    works.callMethod_hands declared ofClass state known
  have adds := Adds.of_notes notes
  rw [calls]
  refine (adds.works works).call_fails declared is state1 counts
    (by rw [notes.same, room]) known1 ?_
  exact fun i now history infos is handed =>
    fails i now history infos (same ▸ is) (handed.after notes)

end

/-! ## Objects of built-in classes -/

/-- The value is an object of a built-in class itself, and has a state that rests on a reason which
has been recorded. -/
def Is (state : ReasonId → Handle) (value : Value) (s : Session) : Prop :=
  ∃ why, s.handle? value = some (state why) ∧ Nat.lt why s.graph.size ∧
    s.classOf? value = some (state why).builtin.classId

/-- Only an object is of a built-in class. -/
lemma Is.object {state : ReasonId → Handle} {value : Value} (is : Is state value s) :
    ∃ i, value = .object i := by
  obtain ⟨why, found, -⟩ := is
  cases value with
  | object i => exact ⟨i, rfl⟩
  | _ => cases found

/-- An object that does not get another state is what it was. -/
lemma Is.alters {written : Places} {restated : ScopeId → Prop} {state : ReasonId → Handle}
    {value : Value} (is : Is state value s) (alters : s.Alters written restated s')
    (spared : ∀ i, value = .object i → ¬ restated i) : Is state value s' := by
  obtain ⟨why, found, recorded, ofClass⟩ := is
  exact ⟨why, alters.handle? spared found, Nat.lt_of_lt_of_le recorded alters.graph,
    alters.classOf? ofClass⟩

/-- An object stays what it is as long as no object gets another state. -/
lemma stays_is (state : ReasonId → Handle) : Stays (Is state) :=
  fun _ _ _ _ alters is => is.alters alters fun _ _ => id

/-- By the name of a built-in class, objects of this class are made. -/
lemma Works.newObject_gives (works : s.Works) (names : s.Names builtin)
    (makes : Native.construct builtin args = Action.ofExcept (.ok handle))
    (ofClass : handle.builtin = builtin) (known : s.graph.Knows (why :: reasons args))
    (inner : Inner) :
    s.Gives (fun value s' => value = .object s.scopes.size ∧ s'.handle? value = some handle ∧
        s'.classOf? value = some builtin.classId)
      (Because.newObject inner builtin.name args why s) := by
  have equips := works.equipped builtin
  obtain ⟨made, s', done, makes, isBuiltin, adds, quiet⟩ :=
    newObject_adds names equips.ofClass equips.nativeBuiltin? makes ofClass known inner
  obtain ⟨value, made⟩ := made
  cases makes.value
  exact ⟨_, _, s', done, adds, quiet, makes.recorded, rfl, makes.state, isBuiltin⟩

/-- Also an object that explanations pass over is made by the name of its class. -/
lemma Works.newHiddenObject_gives (works : s.Works) (names : s.Names builtin)
    (makes : Native.construct builtin args = Action.ofExcept (.ok handle))
    (ofClass : handle.builtin = builtin) (known : s.graph.Knows (why :: reasons args))
    (inner : Inner) :
    s.Gives (fun value s' => value = .object s.scopes.size ∧ s'.handle? value = some handle ∧
        s'.classOf? value = some builtin.classId)
      (Because.newHiddenObject inner builtin.name args why s) := by
  have equips := works.equipped builtin
  obtain ⟨made, s', done, makes, isBuiltin, adds, quiet⟩ :=
    newHiddenObject_adds names equips.ofClass equips.nativeBuiltin? makes ofClass known inner
  obtain ⟨value, made⟩ := made
  cases makes.value
  exact ⟨_, _, s', done, adds, quiet, makes.recorded, rfl, makes.state, isBuiltin⟩

/-- A method that records why and then makes an object gives that object. -/
lemma Works.made_gives (works : s.Works) (names : s.Names builtin) {supporters : List ReasonId}
    (value : Value) (state : ReasonId → Handle)
    (makes : ∀ given, Native.construct builtin [⟨value, given⟩] =
      Action.ofExcept (.ok (state given)))
    (ofClass : ∀ given, (state given).builtin = builtin) (known : s.graph.Knows supporters)
    (recorded : Nat.lt why s.graph.size) (message : String) (inner : Inner) :
    s.Gives (Is state)
      (((liftM (Action.conj message supporters) : Native ReasonId) >>= fun given =>
        (liftM (Because.newHiddenObject inner builtin.name [⟨value, given⟩] why) :
          Native Justified)) s) := by
  obtain ⟨s1, told, notes, fresh⟩ := conj_done known message
  have adds := Adds.of_notes notes
  have supported : s1.graph.Knows (why :: reasons [⟨value, s.graph.size⟩]) :=
    List.forall_mem_cons.2
      ⟨Nat.lt_of_lt_of_le recorded notes.graph, List.forall_mem_singleton.2 fresh⟩
  obtain ⟨object, made, s2, gives⟩ := (adds.works works).newHiddenObject_gives
    (adds.names works names) (makes s.graph.size) (ofClass _) supported inner
  refine ⟨object, made, s2, ?_, adds.trans gives.adds,
    (Quiet.of_notes notes).trans gives.quiet, gives.recorded, s.graph.size, gives.holds.2.1, ?_, ?_⟩
  · rw [Action.bind_done (Action.lift_done told), Action.lift_done gives.done]
  · exact Nat.lt_of_lt_of_le fresh gives.adds.graph
  · rw [ofClass]
    exact gives.holds.2.2

/-! ## Healthy sessions -/

/-- The session is sound and in order, and its built-in classes are in working order. -/
structure Healthy (s : Session) : Prop where
  inOrder : s.InOrder
  sound : s.Sound
  equipped : s.Equipped

/-- In a healthy session the built-in classes can be relied on. -/
lemma Healthy.works (h : s.Healthy) : s.Works := h.inOrder.works h.sound h.equipped

/-- What runs in healthy sessions keeps them so. -/
abbrev thriving : Regime := .keeping Equipped equipped_kept

/-- Every run keeps a session healthy, whatever the number of its steps is. -/
lemma within_regular (steps : Nat) : (Inner.within steps).Regular thriving :=
  .within (Regime.keeping_supers _) (Regime.keeping_bodies _) steps

/-- Sessions that can come about are healthy, at every moment of every run in them. -/
lemma Reachable.healthy (h : s.Reachable) : s.Healthy where
  inOrder := h.inOrder
  sound := h.sound
  equipped := h.equipped

/-- In sessions that can come about, every moment of a run is healthy, and what is in flight is
known. -/
lemma Reachable.healthy_throughout (h : s.Reachable) (steps : Nat) (program : Program) :
    s.Throughout steps program fun moment now => now.Healthy ∧ moment.In now.census := by
  obtain ⟨log, chronicle⟩ := s.exists_chronicle steps program
  have keeps := (h.inOrder.keeps_program equipped_kept h.equipped program).during steps
  have ordered := (chronicle.during _).1 keeps
  have sound := (chronicle.during _).1 (h.sound.throughout steps program)
  refine (chronicle.during _).2 fun moment now mem => ?_
  obtain ⟨inOrder, -, equipped⟩ := ordered moment now mem
  exact ⟨⟨inOrder, (sound moment now mem).1, equipped⟩, (sound moment now mem).2⟩

section

open Comparison

variable {α : Type} {a : Eval α} {Q : Census → α → α → Prop} {R : α → Session → Prop}
  {visible : List ScopeId} {x : α}

/-- An action that gives a result in a healthy session brings a healthy session. -/
lemma Healthy.gives (h : s.Healthy)
    (sims : (tracked s.graph).Sim (tracked s.graph).failures s.census Q a a)
    (leads : thriving.Leads visible Failure.Calm R s (a s)) (done : a s = .done x s') :
    s'.Healthy ∧ s.SameStacks s' ∧ s.Later (places (fun _ => True) visible) s' ∧ R x s' ∧
      ∃ d, s.census.Le d ∧ d.Le s'.census ∧ Q d x x := by
  obtain ⟨sound, balanced, known⟩ := h.sound.gives sims done
  rw [done] at leads
  cases leads with
  | done good later holds =>
    exact ⟨⟨good.orderly, sound, good.holds⟩, balanced, later, holds, known⟩

/-- Once operands have been evaluated, they are what they seem to be. -/
lemma Healthy.evalArgs (h : s.Healthy) {steps : Nat} {operands : List Expr}
    {infos : List Justified} (recorded : Nat.lt why s.graph.size)
    (done : Because.evalArgs (.within steps) why operands s = .done infos s') :
    s'.Healthy ∧ s.SameStacks s' ∧ Justified.AllFit s' infos ∧
      s'.graph.Knows (why :: reasons infos) := by
  obtain ⟨healthy, balanced, -, fit, d, le, le', -, known⟩ := h.gives
    (evalArgs_sim (tracked_insides steps) recorded fun _ _ => trivial)
    (Regime.evalArgs_leads (within_regular steps).toEvaluates ⟨h.inOrder, h.equipped⟩ operands) done
  refine ⟨healthy, balanced, fit, List.forall_mem_cons.2 ⟨le'.reason (le.reason recorded), ?_⟩⟩
  exact (Justified.AllIn.mono le' known).reasons

end

/-- What the state of an object rests on has been recorded. -/
lemma Sound.handle_in (h : s.Sound) {value : Value} {handle : Handle}
    (state : s.handle? value = some handle) : handle.In s.census := by
  obtain ⟨tag, tagged, holds⟩ := Option.bind_eq_some_iff.1 state
  obtain ⟨i, -, found⟩ := Option.bind_eq_some_iff.1 tagged
  exact ((h.known.scopes i).tag tag found).handle handle holds

/-- An object of a built-in class has the state that it should have. -/
lemma Healthy.state_of (h : s.Healthy) {value : Value} (fits : value.Fits s)
    (ofClass : s.classOf? value = some builtin.classId) :
    ∃ handle, s.handle? value = some handle ∧ handle.builtin = builtin := by
  cases value with
  | object i =>
    obtain ⟨id, -, known⟩ := fits
    obtain ⟨tag, tagged, same⟩ := Option.map_eq_some_iff.1 known
    have isClass : id = builtin.classId :=
      Option.some_inj.1 ((classOf_of_kind known).symm.trans ofClass)
    rw [isClass, (h.equipped builtin).nativeBuiltin?, Prod.mk.injEq] at same
    obtain ⟨handle, state, isBuiltin⟩ := Option.map_eq_some_iff.1 same.2
    refine ⟨handle, ?_, isBuiltin⟩
    have found : s.tag? (.object i) = some tag := tagged
    rw [Session.handle?, found, Option.bind_some, state]
  | _ => cases ofClass

end Session

end Because
