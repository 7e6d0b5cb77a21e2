import Because.Proofs.Orderly.Kept
import Because.Proofs.Shadowing
import Because.Proofs.Stability

/-!
# Properties of objects

An object is a scope below the one that was entered when it was made. A property may be assigned to
if the object itself binds it; and a property of the object itself that is read has the value of the
last assignment to it, or the one that it had from the beginning. But a property that is read is
sought upwards from the object like any variable, so that what an enclosing scope binds may also be
read as if it were a property.
-/

namespace Because

open Session Comparison

namespace Session

variable {s s' now : Session} {i : ScopeId} {name : String}

/-! ## What the last assignment left -/

/-- An assignment gives a property of an object a value, and is recorded as the reason of it. -/
inductive Sets (s : Session) (i : ScopeId) (name : String) (value : Value) : Session → Prop where
  | mk (owner text : String) {calling : ReasonId} {values : List ReasonId}
      (location : Option Location) :
    s.graph.Knows (calling :: values) → (s.scopes.scopeAt i).tag.isSome →
    s.scopes.binds i name = true → Sets s i name value { s with
      graph := s.graph.pushFull (propertyText owner name) text calling values location
      scopes := s.scopes.bind i name ⟨value, s.graph.size⟩ }

/-- A property that has been assigned to has the new value, and its reason is the newest one. -/
lemma Sets.local {value : Value} (sets : s.Sets i name value s') :
    s'.scopes.local? i name = some ⟨value, s.graph.size⟩ := by
  cases sets with
  | mk owner text location known tagged bound =>
    rw [Scopes.local_bind, if_pos ⟨⟨rfl, Scopes.lt_of_binds bound⟩, rfl⟩]

/-- The second session comes out of the first one by changes that leave what a scope binds to a
name. -/
abbrev Spares (i : ScopeId) (name : String) : Session → Session → Prop :=
  Relation.ReflTransGen fun s s' =>
    s.Change s' ∧ s'.scopes.local? i name = s.scopes.local? i name

/-- A member that has been spared has the value that it had. -/
lemma Spares.local (spares : Spares i name s now) :
    now.scopes.local? i name = s.scopes.local? i name := by
  induction spares with
  | refl => rfl
  | tail _ last ih => exact last.2.trans ih

/-- How a property of an object has come by its value since a session: it has the value that it had
then, or that of an assignment after which it was left alone. -/
inductive Holds (s : Session) (i : ScopeId) (name : String) (now : Session) : Prop where
  | kept : Spares i name s now → Holds s i name now
  | set {before after : Session} {value : Value} : s.Course before →
    before.Sets i name value after → Spares i name after now → Holds s i name now

/-- What a property of an object has for a value: the one that it had, or the one that was assigned
to it last. -/
lemma Holds.value (holds : s.Holds i name now) :
    now.scopes.local? i name = s.scopes.local? i name ∨
      ∃ before after value, s.Course before ∧ before.Sets i name value after ∧
        Spares i name after now ∧
        now.scopes.local? i name = some ⟨value, before.graph.size⟩ := by
  cases holds with
  | kept spares => exact .inl spares.local
  | @set before after value course sets spares =>
    exact .inr ⟨before, after, value, course, sets, spares, spares.local.trans sets.local⟩

/-- A change of an object assigns to a property, or leaves what the object binds to the name. -/
lemma Change.property (change : s.Change s') (object : (s.scopes.scopeAt i).tag.isSome)
    (bound : s.scopes.binds i name = true) :
    s'.scopes.local? i name = s.scopes.local? i name ∨ ∃ value, s.Sets i name value s' := by
  have tagged {j : ScopeId} (untagged : (s.scopes.scopeAt j).tag = none) : j ≠ i := by
    rintro rfl
    rw [untagged] at object
    cases object
  have elsewhere {j : ScopeId} (other : String) (info : Justified) (ne : j ≠ i) :
      (s.scopes.bind j other info).local? i name = s.scopes.local? i name := by
    rw [Scopes.local_bind, if_neg fun here => ne here.1.1]
  cases change with
  | aside | tell | conclude | hide | makeFunction => exact .inl rfl
  | makeScope | makeObject | makeClass =>
    have old : i ≠ s.scopes.size := Nat.ne_of_lt (Scopes.lt_of_binds bound)
    refine .inl ?_
    simp only [Scopes.local?, Scopes.scopeAt_push, if_neg old]
  | setHandle =>
    refine .inl ?_
    simp only [Scopes.local?, Scopes.scopeAt_update]
    split <;> rfl
  | declare untagged | assign _ _ untagged | makeMethod _ untagged =>
    exact .inl (elsewhere _ _ (tagged untagged))
  | @assignProperty j other owner text value calling values location known isObject binds =>
    by_cases here : j = i ∧ name = other
    · obtain ⟨rfl, rfl⟩ := here
      exact .inr ⟨value, .mk owner text location known isObject binds⟩
    · refine .inl ?_
      rw [Scopes.local_bind, if_neg fun same => here ⟨same.1.1, same.2⟩]

/-- A property that an object binds. -/
structure Owns (s : Session) (i : ScopeId) (name : String) : Prop where
  object : (s.scopes.scopeAt i).tag.isSome
  bound : s.scopes.binds i name = true

/-- An object that owns a member goes on to own it. -/
lemma Owns.change (owns : s.Owns i name) (change : s.Change s') : s'.Owns i name where
  object := by
    have lt : Nat.lt i s.scopes.size := Scopes.lt_of_binds owns.bound
    have kind := congrArg Option.isSome (change.kind_old lt)
    rw [kind?, kind?, Option.isSome_map, Option.isSome_map] at kind
    rw [kind, owns.object]
  bound := by
    obtain same | ⟨value, sets⟩ := change.property owns.object owns.bound
    · have found := congrArg Option.isSome same
      exact found.trans owns.bound
    · exact congrArg Option.isSome sets.local

/-- Every change keeps it that the object owns the member and that this holds what it should. -/
lemma holds_kept : Kept fun now => now.Owns i name ∧ s.Course now ∧ s.Holds i name now := by
  rintro now later change ⟨owns, course, holds⟩
  refine ⟨owns.change change, course.tail change, ?_⟩
  obtain same | ⟨value, sets⟩ := change.property owns.object owns.bound
  · cases holds with
    | kept spares => exact .kept (spares.tail ⟨change, same⟩)
    | set before sets spares => exact .set before sets (spares.tail ⟨change, same⟩)
  · exact .set course sets .refl

/-! ## Reading a property -/

section

variable {inner : Inner} {owner : Expr} {ownerWhy why : ReasonId} {loc : Location}

/-- The session in which the reading of a property has been recorded. -/
def readOf (now : Session) (i : ScopeId) (name : String) (stored : Justified)
    (ownerWhy why : ReasonId) (loc : Location) : Session :=
  { now with
    graph := now.graph.pushFull (propertyText (now.render (.object i)) name)
      (now.render stored.value) why [ownerWhy, stored.why]
      (now.graph.locate [why, ownerWhy, stored.why] (some loc)) }

/-- How the reading of a property of an object ends: with the value that the object itself binds to
the name, or else with that of the nearest scope above it that binds the name; if there is none, the
property is undefined. -/
structure Reads (now : Session) (i : ScopeId) (name : String) (ownerWhy why : ReasonId)
    (loc : Location) (read : Outcome Failure Justified) : Prop where
  own : ∀ stored, now.scopes.local? i name = some stored →
    read = .done ⟨stored.value, now.graph.size⟩ (now.readOf i name stored ownerWhy why loc)
  above : ∀ j stored, now.scopes.binds i name = false → now.scopes.Nearest name i j →
    now.scopes.local? j name = some stored →
    read = .done ⟨stored.value, now.graph.size⟩ (now.readOf i name stored ownerWhy why loc)
  missing : (∀ j, ¬ now.scopes.Nearest name i j) →
    read = .failed (.because (.undefinedVariable name (now.scopes.description i)) why) now

/-- A member that is found is read, and its value rests on what it was found for. -/
lemma evalProperty_found (ends : inner.eval owner why s = .done ⟨.object i, ownerWhy⟩ now)
    {stored : Justified} (found : now.scopes.tryGet i name = some stored)
    (known : now.graph.Knows [why, ownerWhy, stored.why]) :
    evalProperty inner owner name loc why s =
      .done ⟨stored.value, now.graph.size⟩ (now.readOf i name stored ownerWhy why loc) := by
  have got : now.scopes.get i name = .ok stored := by
    rw [Scopes.get, found]
  simp only [evalProperty, Bind.bind, ends, Action.ask, Action.render, got, Action.full,
    Action.record, Graph.add_ok known, readOf]
  rfl

/-- A member that is found nowhere cannot be read. -/
lemma evalProperty_missing (ends : inner.eval owner why s = .done ⟨.object i, ownerWhy⟩ now)
    (missing : now.scopes.tryFind i name = none) :
    evalProperty inner owner name loc why s =
      .failed (.because (.undefinedVariable name (now.scopes.description i)) why) now := by
  have got : now.scopes.get i name =
      .error (.undefinedVariable name (now.scopes.description i)) := by
    rw [Scopes.get, Scopes.tryGet, missing, Option.bind_none]
  simp only [evalProperty, Bind.bind, ends, Action.ask, Action.render, got]
  rfl

/-- A property is sought upwards from the object. -/
lemma evalProperty_reads (inOrder : now.InOrder) (sound : now.Sound)
    (ends : inner.eval owner why s = .done ⟨.object i, ownerWhy⟩ now)
    (known : now.graph.Knows [why, ownerWhy]) :
    now.Reads i name ownerWhy why loc (evalProperty inner owner name loc why s) := by
  have nearest {j : ScopeId} {stored : Justified} (near : now.scopes.Nearest name i j)
      (holds : now.scopes.local? j name = some stored) :
      evalProperty inner owner name loc why s =
        .done ⟨stored.value, now.graph.size⟩ (now.readOf i name stored ownerWhy why loc) := by
    have found : now.scopes.tryGet i name = some stored := by
      rw [Scopes.tryGet, (Scopes.Descending.tryFind_iff inOrder.rooted.scopes).2 near,
        Option.bind_some, holds]
    have recorded : stored.why < now.graph.size :=
      (Scopes.In.tryGet sound.known.scopes found).2
    obtain ⟨calling, others⟩ := List.forall_mem_cons.1 known
    refine evalProperty_found ends found (List.forall_mem_cons.2 ⟨calling, ?_⟩)
    exact List.forall_mem_cons.2 ⟨others _ List.mem_cons_self,
      List.forall_mem_cons.2 ⟨recorded, List.forall_mem_nil _⟩⟩
  refine ⟨fun stored holds => ?_, fun j stored _ near holds => nearest near holds, fun none => ?_⟩
  · exact nearest (.own (congrArg Option.isSome holds)) holds
  · refine evalProperty_missing ends ?_
    by_contra found
    obtain ⟨j, found⟩ := Option.ne_none_iff_exists'.1 found
    exact none j ((Scopes.Descending.tryFind_iff inOrder.rooted.scopes).1 found)

/-! ## Assigning to a property -/

/-- How an assignment to a property of an object ends, by how its value does: it is refused before
there is a value unless the object itself binds the name, and then the property gets the value. -/
structure Writes (now : Session) (i : ScopeId) (name : String) (ownerWhy : ReasonId)
    (value : Outcome Failure Justified) (write : Outcome Failure Flow) : Prop where
  refused : now.scopes.binds i name = false → write =
    .failed (.because (.undefinedVariable name (now.scopes.description i)) ownerWhy) now
  done : now.scopes.binds i name = true → ∀ result later, value = .done result later →
    ∃ after, later.Sets i name result.value after ∧ write = .done .normal after
  failed : now.scopes.binds i name = true → ∀ failure later, value = .failed failure later →
    write = .failed failure later
  exhausted : now.scopes.binds i name = true → value = .exhausted → write = .exhausted

/-- The owner of a member that it binds is accepted. -/
lemma expectOwner_allowed (bound : now.scopes.binds i name = true) :
    expectOwner ⟨.object i, ownerWhy⟩ name now = .done i now := by
  simp only [expectOwner, Bind.bind, Action.ask, bound]
  rfl

/-- The owner of a member that it does not bind is refused. -/
lemma expectOwner_refused (unbound : now.scopes.binds i name = false) :
    expectOwner ⟨.object i, ownerWhy⟩ name now =
      .failed (.because (.undefinedVariable name (now.scopes.description i)) ownerWhy) now := by
  simp only [expectOwner, Bind.bind, Action.ask, unbound, Bool.false_eq_true]
  rfl

/-- A name that a scope itself binds is assigned to there. -/
lemma assign_bound (bound : now.scopes.binds i name = true) (info : Justified) :
    Action.assign i name info now =
      .done () { now with scopes := now.scopes.bind i name info } := by
  have found : now.scopes.tryFind i name = some i := by
    simp only [Scopes.tryFind, Scopes.chain, Scopes.chainFrom, List.find?_cons, bound]
  simp only [Action.assign, Scopes.assign, found]

variable {value : Expr}

/-- What is recorded when the value of a property is there, and what the property gets. -/
def assignTo (shown name : String) (i : ScopeId) (loc : Location) (why : ReasonId)
    (result : Justified) : Eval Unit := do
  let rendered ← Action.render result.value
  let assigned ← Action.full (propertyText shown name) rendered loc why [result.why]
  (Action.assign i name ⟨result.value, assigned⟩).mapError (·.withReason why)

variable (loc) in
/-- A member that the object owns gets the value. -/
lemma assignTo_sets (owns : now.Owns i name) {result : Justified}
    (known : now.graph.Knows [why, result.why]) (shown : String) :
    ∃ after, now.Sets i name result.value after ∧
      assignTo shown name i loc why result now = .done () after := by
  refine ⟨_, .mk shown (now.render result.value) (now.graph.locate [why, result.why] (some loc))
    known owns.object owns.bound, ?_⟩
  have assigns (graph : Graph) (info : Justified) :
      Action.assign i name info { now with graph } =
        .done () { now with graph, scopes := now.scopes.bind i name info } :=
    assign_bound (owns.bound : Scopes.binds { now with graph }.scopes i name = true) info
  simp only [assignTo, Bind.bind, Action.render, Action.ask, Action.full, Action.record,
    Graph.add_ok known, Action.mapError, assigns]

/-- An assignment to a property looks at the object first, and at the property before its value. -/
lemma execSetProperty_eq (ends : inner.eval owner why s = .done ⟨.object i, ownerWhy⟩ now) :
    execSetProperty inner owner name value loc why s =
      (expectOwner ⟨.object i, ownerWhy⟩ name >>= fun object =>
        inner.eval value why >>= fun result =>
          Action.render (.object i) >>= fun shown =>
            assignTo shown name object loc why result) now := by
  simp only [execSetProperty, Bind.bind, ends]
  rfl

/-- Setting a property writes the member that the object binds, or is refused if it binds none. -/
lemma execSetProperty_writes (ends : inner.eval owner why s = .done ⟨.object i, ownerWhy⟩ now)
    (settles : now.scopes.binds i name = true → ∀ result later,
      inner.eval value why now = .done result later →
        later.Owns i name ∧ later.graph.Knows [why, result.why]) :
    now.Writes i name ownerWhy (inner.eval value why now)
      (execStmt inner (.setProperty loc owner name value) why s) := by
  have runs : execStmt inner (.setProperty loc owner name value) why s =
      (execSetProperty inner owner name value loc why >>= fun _ => (pure .normal : Eval Flow)) s :=
    rfl
  rw [runs]
  simp only [Bind.bind, execSetProperty_eq ends]
  refine ⟨fun unbound => ?_, fun bound result later done => ?_, fun bound failure later fails => ?_,
    fun bound lost => ?_⟩
  · simp only [expectOwner_refused unbound]
  · obtain ⟨owns, known⟩ := settles bound result later done
    obtain ⟨after, sets, writes⟩ := assignTo_sets loc owns known (later.render (.object i))
    refine ⟨after, sets, ?_⟩
    simp only [expectOwner_allowed bound, done, Action.render, Action.ask, writes]
    rfl
  · simp only [expectOwner_allowed bound, fails]
  · simp only [expectOwner_allowed bound, lost]

end

/-! ## Members of objects -/

/-- In a session that is sound and in order, what is evaluated leaves such a session, which grows
out of it, and a value that fits it. -/
lemma InOrder.evaluated (inOrder : s.InOrder) (sound : s.Sound) {why : ReasonId}
    (recorded : s.census.reason why) {steps : Nat} {expr : Expr} {result : Justified}
    (ends : Because.eval steps expr why s = .done result now) :
    now.InOrder ∧ now.Sound ∧ s.Course now ∧ result.value.Fits now ∧
      now.graph.Knows [why, result.why] := by
  have leads := (Regime.plain_within steps).eval expr why inOrder.good
  have tracks := @Insides.eval _ _ _ _ _ (tracked_insides steps) _ expr why trivial recorded s s
    (tracked_pair sound)
  rw [show (Inner.within steps).eval expr why s = .done result now from ends] at leads tracks
  cases leads with
  | done good later fits =>
    generalize Inner.eval _ _ _ s = o at tracks
    cases tracks with
    | done le pair _ _ info =>
      obtain ⟨rfl, known⟩ := pair.holds
      refine ⟨good.orderly, pair.sound, later.course, fits, ?_⟩
      refine List.forall_mem_cons.2 ⟨known.known.reason (le.reason recorded), ?_⟩
      exact List.forall_mem_singleton.2 (known.known.reason info.2.2)

/-- Whatever runs in the session, at every moment of it and afterwards the property has the value
that it has in the session, or the one that was assigned to it last. -/
structure KeepsMember (s : Session) (i : ScopeId) (name : String) : Prop where
  program : ∀ program, s.KeepsThrough (s.Holds i name) (Because.runProgram · program)
  stmt : ∀ stmt why, s.KeepsThrough (s.Holds i name) (execStmt · stmt why)
  expr : ∀ expr why, s.KeepsThrough (s.Holds i name) (evalExpr · expr why)
  call : ∀ f args why, Nat.lt f s.functions.size → Justified.AllFit s args →
    s.KeepsThrough (s.Holds i name) (Because.callFunction · f args why)

/-- An object that owns a member keeps it. -/
lemma Owns.keepsMember (owns : s.Owns i name) (h : s.InOrder) : s.KeepsMember i name where
  program program :=
    (h.keeps_program holds_kept ⟨owns, .refl, .kept .refl⟩ program).mono (steady_runProgram program)
      fun _ kept => kept.2.2
  stmt stmt why :=
    (h.keeps_stmt holds_kept ⟨owns, .refl, .kept .refl⟩ stmt why).mono (steady_execStmt stmt why)
      fun _ kept => kept.2.2
  expr expr why :=
    (h.keeps_expr holds_kept ⟨owns, .refl, .kept .refl⟩ expr why).mono (steady_evalExpr expr why)
      fun _ kept => kept.2.2
  call f args why lt fit :=
    (h.keeps_call holds_kept ⟨owns, .refl, .kept .refl⟩ lt fit why).mono
      (steady_callFunction f args why) fun _ kept => kept.2.2

/-- If no scope above the object binds the name, the property can be read exactly if it may be
assigned to. -/
lemma Reads.succeeds_iff {ownerWhy why : ReasonId} {loc : Location}
    {read : Outcome Failure Justified} (reads : now.Reads i name ownerWhy why loc read)
    (alone : ∀ j, now.scopes.Nearest name i j → j = i) :
    (∃ result later, read = .done result later) ↔ now.scopes.binds i name = true := by
  constructor
  · rintro ⟨result, later, done⟩
    by_contra unbound
    have none (j : ScopeId) (near : now.scopes.Nearest name i j) : False :=
      unbound (alone j near ▸ near.binds)
    cases done.symm.trans (reads.missing none)
  · intro bound
    obtain ⟨stored, holds⟩ := Scopes.local?_of_binds bound
    exact ⟨_, _, reads.own stored holds⟩

/-- What reading and assigning a property of an object do, once the object is known. -/
structure Members (s now : Session) (steps : Nat) (owner : Expr) (i : ScopeId)
    (ownerWhy why : ReasonId) (name : String) (loc : Location) : Prop where
  object : (now.scopes.scopeAt i).tag.isSome
  reads : now.Reads i name ownerWhy why loc
    (Because.eval (steps + 1) (.property loc owner name) why s)
  writes : ∀ value, now.Writes i name ownerWhy (Because.eval steps value why now)
    (Because.exec (steps + 1) (.setProperty loc owner name value) why s)
  agree : (∀ j, now.scopes.Nearest name i j → j = i) →
    ((∃ result later,
        Because.eval (steps + 1) (.property loc owner name) why s = .done result later) ↔
      now.scopes.binds i name = true)

/-- In a session that is in order, members are read and written as they should be. -/
lemma InOrder.members (h : s.InOrder) (sound : s.Sound) {why : ReasonId}
    (recorded : s.census.reason why) {steps : Nat} {owner : Expr} {ownerWhy : ReasonId}
    (ends : Because.eval steps owner why s = .done ⟨.object i, ownerWhy⟩ now) (name : String)
    (loc : Location) : s.Members now steps owner i ownerWhy why name loc := by
  obtain ⟨inOrder, sound, course, ⟨id, lt, kind⟩, known⟩ := h.evaluated sound recorded ends
  have object : (now.scopes.scopeAt i).tag.isSome := by
    have some := congrArg Option.isSome kind
    rwa [kind?, Option.isSome_map] at some
  have inside : (Inner.within steps).eval owner why s = .done ⟨.object i, ownerWhy⟩ now := ends
  have reads : now.Reads i name ownerWhy why loc
      (Because.eval (steps + 1) (.property loc owner name) why s) :=
    evalProperty_reads inOrder sound inside known
  refine ⟨object, reads, fun value => ?_, reads.succeeds_iff⟩
  refine execSetProperty_writes inside fun bound result later done => ?_
  have recorded : now.census.reason why := known _ List.mem_cons_self
  obtain ⟨-, -, course, -, known⟩ := inOrder.evaluated sound recorded done
  have owns : now.Owns i name := ⟨object, bound⟩
  exact ⟨(course.kept holds_kept ⟨owns, .refl, .kept (s := now) .refl⟩).1, known⟩

/-- In sessions that can come about, and at every moment of their runs, a property may be assigned
to exactly if the object itself binds it. If it does, the property can be read, and has the value
that was assigned to it last or else the one that it had. If it does not, what is read is what the
nearest enclosing scope binds to the name, and only if there is none the property is undefined. -/
theorem Reachable.members_agree (h : s.Reachable) (steps : Nat) (program : Program) :
    (s.InOrder ∧ s.Sound) ∧
    (s.Throughout steps program fun _ now => now.InOrder) ∧
    (s.Throughout steps program fun _ now => now.Sound) ∧
    ∀ s : Session, s.InOrder → s.Sound →
      (∀ steps owner why i ownerWhy now, s.census.reason why →
        Because.eval steps owner why s = .done ⟨.object i, ownerWhy⟩ now →
          ∀ name loc, s.Members now steps owner i ownerWhy why name loc) ∧
      ∀ i name, s.Owns i name → s.KeepsMember i name := by
  refine ⟨⟨h.inOrder, h.sound⟩, h.throughout steps program fun inOrder _ => inOrder,
    (h.sound.throughout steps program).mono fun _ _ sound => sound.1,
    fun s inOrder sound => ⟨?_, fun i name owns => owns.keepsMember inOrder⟩⟩
  exact fun steps owner why i ownerWhy now recorded ends name loc =>
    inOrder.members sound recorded ends name loc

/-- A box with one field, and a variable that has nothing to do with it. -/
def boxed : Program :=
  [.declare .builtin "x" (.const .builtin (.int 7)),
    .declareClass .builtin ⟨"Box", none, ["content"], []⟩,
    .declare .builtin "b" (.new .builtin "Box" [])]

/-- The box has its field as a member, and keeps it. -/
theorem Reachable.members_agree_of_boxed : (Session.start {} {}).Reachable ∧
    ∃ s now i ownerWhy, (Session.start {} {}).LeadsTo s ∧
      s.Members now 2 (.get .builtin "b") i ownerWhy 0 "content" .builtin ∧
      s.Owns i "content" ∧ s.KeepsMember i "content" := by
  have reachable := Reachable.start {} {}
  have runs : ((Because.runProgram (.within 4) boxed (Session.start {} {})).session?.map fun s =>
      decide (0 < s.graph.size ∧ (s.scopes.scopeAt 7).tag.isSome = true ∧
        s.scopes.binds 7 "content" = true ∧
        (Because.eval 2 (.get .builtin "b") 0 s).result?.map (·.1.value) =
          some (.object 7))) = some true := by
    decide +kernel
  obtain ⟨s, left, facts⟩ := Option.map_eq_some_iff.1 runs
  obtain ⟨recorded, object, bound, evaluates⟩ := of_decide_eq_true facts
  obtain ⟨⟨⟨_, ownerWhy⟩, now⟩, ends, rfl⟩ := Option.map_eq_some_iff.1 evaluates
  have leads : (Session.start {} {}).LeadsTo s := ⟨4, boxed, left⟩
  obtain ⟨⟨inOrder, sound⟩, -, -, agree⟩ := (reachable.run leads).members_agree 0 []
  obtain ⟨members, keeps⟩ := agree s inOrder sound
  have owns : s.Owns 7 "content" := ⟨object, bound⟩
  exact ⟨reachable, s, now, 7, ownerWhy, leads,
    members 2 _ 0 7 ownerWhy now recorded (Outcome.eq_done ends) "content" .builtin, owns,
    keeps 7 "content" owns⟩

/-- The box has no member that is called as the variable, and it may not be assigned to; but reading
it as a property of the box gives the value of the variable. -/
theorem boxed_reads_global : (Session.start {} {}).Reachable ∧
    ∃ s i, (Session.start {} {}).LeadsTo s ∧ (s.scopes.scopeAt i).tag.isSome = true ∧
      s.scopes.binds i "x" = false ∧
      (Because.eval 3 (.property .builtin (.get .builtin "b") "x") 0 s).result?.map (·.1.value) =
        some (.int 7) ∧
      (Because.exec 3 (.setProperty .builtin (.get .builtin "b") "x" (.const .builtin (.int 8))) 0
        s).failure?.map (·.1.fault) = some (.undefinedVariable "x" (s.scopes.description i)) := by
  have runs : ((Because.runProgram (.within 4) boxed (Session.start {} {})).session?.map fun s =>
      decide ((s.scopes.scopeAt 7).tag.isSome = true ∧ s.scopes.binds 7 "x" = false ∧
        (Because.eval 3 (.property .builtin (.get .builtin "b") "x") 0 s).result?.map (·.1.value) =
          some (.int 7) ∧
        (Because.exec 3 (.setProperty .builtin (.get .builtin "b") "x"
          (.const .builtin (.int 8))) 0 s).failure?.map (·.1.fault) =
            some (.undefinedVariable "x" (s.scopes.description 7)))) = some true := by
    decide +kernel
  obtain ⟨s, left, facts⟩ := Option.map_eq_some_iff.1 runs
  exact ⟨.start {} {}, s, 7, ⟨4, boxed, left⟩, of_decide_eq_true facts⟩

end Session

end Because
