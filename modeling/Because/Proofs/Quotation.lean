import Because.Proofs.Graph.Mentions
import Because.Proofs.Outside
import Because.Proofs.Sums

/-!
# What expressions add to an explanation

The reason for the value of an expression rests on the reason for which it is evaluated, and on
those for what it is made of. So what the explanation of the value quotes comes out of what these
explanations quote, one after the other, unless the text that is looked for stands in the
description of the new reason itself.
-/

namespace Because

/-- A text on one line in which another one does not stand. -/
structure Clear (needle text : String) : Prop where
  single : '\n' ∉ text.toList
  free : Text.mentions needle text = false

instance (needle text : String) : Decidable (Clear needle text) :=
  decidable_of_iff ('\n' ∉ text.toList ∧ Text.mentions needle text = false)
    ⟨fun ⟨single, free⟩ => ⟨single, free⟩, fun h => ⟨h.single, h.free⟩⟩

/-- A text does not stand where one of its characters does not. -/
lemma Clear.of_absent {needle text : String} {c : Char} (mem : c ∈ needle.toList)
    (absent : c ∉ text.toList) (single : '\n' ∉ text.toList) : Clear needle text where
  single := single
  free := decide_eq_false fun stands => absent (stands.subset mem)

namespace Session

variable {s s' s'' now later : Session} {needle name : String} {value : Value} {why w : ReasonId}
  {asks held quoted : List ReasonId} {expr : Expr} {steps : Nat} {i : ScopeId} {stored : Justified}

/-! ## Reasons -/

section

variable {kind : Kind} {supporters : List ReasonId} {lists : List (List ReasonId)}
  (apart : Apart needle) (ordered : s.graph.Ordered)
  (each : List.Forall₂ (s.graph.Quotes needle) supporters lists) (distinct : supporters.Nodup)

include apart ordered each distinct

/-- A reason that has been recorded quotes what the reasons quote that it rests on, and before that
itself if the text stands in what it says. -/
lemma Adduces.quotes_own (h : s.Adduces kind supporters s') (single : '\n' ∉ kind.wording.toList) :
    s'.graph.Quotes needle s.graph.size
      ((if Text.mentions needle kind.wording then [s.graph.size] else []) ++ lists.flatten) := by
  obtain ⟨location, found⟩ := h.node
  exact .of_node apart (h.ordered ordered) found rfl distinct
    (each.imp fun _ _ quotes => quotes.later ordered h.grows) single

/-- A reason whose own words do not mention the text quotes what its supporters quote. -/
lemma Adduces.quotes (h : s.Adduces kind supporters s') (clear : Clear needle kind.wording) :
    s'.graph.Quotes needle s.graph.size lists.flatten := by
  have quotes := h.quotes_own apart ordered each distinct clear.single
  rwa [clear.free, if_neg Bool.false_ne_true] at quotes

end

/-! ## Values of expressions -/

/-- Expressions can be evaluated, and reasons rest on older ones. -/
structure Able (s : Session) : Prop extends s.Apt where
  ordered : s.graph.Ordered

/-- In a healthy session expressions can be evaluated, and reasons rest on older ones. -/
lemma Healthy.able (h : s.Healthy) : s.Able := ⟨h.apt, h.sound.ordered⟩

/-- The outcome is this value, for a new reason that quotes these numbers; besides it only reasons
and other objects have been made, and the other reasons are as they were. -/
structure Cites (needle : String) (s : Session) (o : Outcome Failure Justified) (value : Value)
    (quoted : List ReasonId) (why : ReasonId) (s' : Session) : Prop where
  done : o = .done ⟨value, why⟩ s'
  adds : s.Adds s'
  quiet : s.Quiet s'
  ordered : s'.graph.Ordered
  grows : s.graph.Grows s'.graph
  new : s.graph.size ≤ why
  quotes : s'.graph.Quotes needle why quoted

namespace Cites

variable {o : Outcome Failure Justified} (h : s.Cites needle o value quoted why s')

include h

/-- Expressions can be evaluated after a value has been given. -/
lemma able (able : s.Able) : s'.Able :=
  ⟨able.after h.adds h.quiet.toSameStacks, h.ordered⟩

/-- What older reasons quote does not change. -/
lemma keeps {id : ReasonId} (ordered : s.graph.Ordered) (quotes : s.graph.Quotes needle id held) :
    s'.graph.Quotes needle id held := quotes.later ordered h.grows

/-- The reason of the value is new. -/
lemma ne {id : ReasonId} (old : s.graph.Quotes needle id held) : id ≠ why :=
  Nat.ne_of_lt (Nat.lt_of_lt_of_le old.lt h.new)

/-- It makes no difference which reasons and objects have been made before. -/
lemma after {before : Session} (adds : before.Adds s) (quiet : before.Quiet s)
    (grows : before.graph.Grows s.graph) : before.Cites needle o value quoted why s' where
  done := h.done
  adds := adds.trans h.adds
  quiet := quiet.trans h.quiet
  ordered := h.ordered
  grows := grows.trans h.grows
  new := Nat.le_trans grows.size h.new
  quotes := h.quotes

end Cites

section

variable (h : s.Able) (apart : Apart needle) (asked : s.graph.Quotes needle why asks)

include h apart asked

/-- The value of a variable holds because it has been asked for, and because of what the variable
rests on. -/
lemma Able.get_cites (found : s.scopes.tryGet s.currentScope name = some stored)
    (has : s.graph.Quotes needle stored.why held) (ne : why ≠ stored.why)
    (clear : Clear needle s!"{Node.variableText name} = {s.render stored.value}") (steps : Nat)
    (loc : Location) :
    ∃ s', s.Tells s' ∧ s.Cites needle (Because.eval (steps + 1) (.get loc name) why s) stored.value
      (asks ++ held) s.graph.size s' := by
  obtain ⟨s', done, records⟩ := lookupVariable_reads found loc
    (List.forall_mem_cons.2 ⟨asked.lt, List.forall_mem_singleton.2 has.lt⟩)
  have quotes := records.quotes apart h.ordered (.cons asked (.cons has .nil))
    (List.nodup_cons.2 ⟨List.mem_singleton.not.2 ne, List.nodup_singleton _⟩) clear
  refine ⟨s', records.toTells, done, .of_notes records.toNotes, .of_notes records.toNotes,
    records.ordered h.ordered, records.grows, Nat.le_refl _, ?_⟩
  simpa using quotes

/-- The value of a property holds because it has been asked for, and because of its object and of
what the property rests on. -/
lemma Able.property_cites {owner : Expr} {owning : List ReasonId}
    (evaluates : s.Cites needle (Because.eval steps owner why s) (.object i) owning w now)
    (found : s.scopes.local? i name = some stored) (has : s.graph.Quotes needle stored.why held)
    (ne : why ≠ stored.why) (clear : Clear needle s!"{Node.variableText (propertyText
      (now.render (.object i)) name)} = {now.render stored.value}") (loc : Location) :
    ∃ s', now.Tells s' ∧ s.Cites needle (Because.eval (steps + 1) (.property loc owner name) why s)
      stored.value (asks ++ owning ++ held) now.graph.size s' := by
  have kept : now.scopes.local? i name = some stored := by
    have bound : s.scopes.binds i name = true := congrArg Option.isSome found
    rw [evaluates.adds.local? (Scopes.lt_of_binds bound), found]
  have found := tryGet_of_local kept
  have asked' := evaluates.keeps h.ordered asked
  have has' := evaluates.keeps h.ordered has
  have known : now.graph.Knows [why, w, stored.why] := List.forall_mem_cons.2
    ⟨asked'.lt, List.forall_mem_cons.2 ⟨evaluates.quotes.lt, List.forall_mem_singleton.2 has'.lt⟩⟩
  have records : now.Adduces (.full (propertyText (now.render (.object i)) name)
      (now.render stored.value) why [w, stored.why]) [why, w, stored.why]
      (now.readOf i name stored w why loc) :=
    @records_push now (.full (propertyText (now.render (.object i)) name)
      (now.render stored.value) why [w, stored.why]) _ known rfl _
  have distinct : [why, w, stored.why].Nodup := by
    simp [evaluates.ne asked, ne, (evaluates.ne has).symm]
  have quotes := records.quotes apart evaluates.ordered
    (.cons asked' (.cons evaluates.quotes (.cons has' .nil))) distinct clear
  have evaluated : (Inner.within steps).eval owner why s = .done ⟨.object i, w⟩ now :=
    evaluates.done
  refine ⟨_, records.toTells, evalProperty_found evaluated found known,
    evaluates.adds.trans (.of_notes records.toNotes),
    evaluates.quiet.trans (.of_notes records.toNotes), records.ordered evaluates.ordered,
    evaluates.grows.trans records.grows, evaluates.grows.size, ?_⟩
  simpa using quotes

/-- An object of a built-in class that is made of arguments holds because it has been asked for, and
because of its arguments, which are followed twice. -/
lemma Able.evalNew_cites {builtin : Builtin} (names : s.Names builtin) {args : List Expr}
    {infos : List Justified} {lists : List (List ReasonId)} {handle : Handle}
    (done : evalArgs (.within steps) why args now = .done infos s)
    (each : List.Forall₂ (s.graph.Quotes needle) (reasons infos) lists)
    (distinct : (why :: reasons infos).Nodup)
    (makes : Native.construct builtin infos = Action.ofExcept (.ok handle))
    (ofClass : handle.builtin = builtin)
    (made : Clear needle s!"new {builtin.name}({s.renderAll infos})")
    (given : ∀ t, Clear needle s!"newObject {builtin.name}({Session.renderAll t infos})") :
    ∃ i w s', s.Cites needle (Because.evalNew (.within steps) builtin.name args why now) (.object i)
      (asks ++ lists.flatten ++ lists.flatten) w s' ∧ s'.handle? (.object i) = some handle ∧
      s'.classOf? (.object i) = some builtin.classId := by
  have known : s.graph.Knows (why :: reasons infos) :=
    Graph.Quotes.known (.cons asked each)
  obtain ⟨s1, records1, begins⟩ := evalNew_runs done known builtin.name
  have context := records1.quotes apart h.ordered (.cons asked each) distinct made
  have adds := Adds.of_notes records1.toNotes
  have equips := (adds.works h.toWorks).equipped builtin
  have ordered1 := records1.ordered h.ordered
  have each1 := each.imp fun _ _ quotes => quotes.later h.ordered records1.grows
  obtain ⟨s2, makes2, records2⟩ := newObject_records (adds.names h.toWorks names) equips.ofClass
    equips.nativeBuiltin? makes ofClass (Graph.Quotes.known (.cons context each1)) (.within steps)
  -- The arguments explain both the context in which the object is made and the object itself.
  let object := s1.withBuiltin builtin.name builtin.classId handle
  have grows : s1.graph.Grows object.graph := withBuiltin_grows ..
  have ordered : object.graph.Ordered :=
    (s1.records_text "This is the class of the object").ordered ordered1
  have distinct1 : (s.graph.size :: reasons infos).Nodup :=
    List.nodup_cons.2 ⟨fun mem => Nat.lt_irrefl _ (known _ (List.mem_cons_of_mem _ mem)),
      (List.nodup_cons.1 distinct).2⟩
  have quotes := records2.quotes apart ordered
    ((List.Forall₂.cons context each1).imp fun _ _ quotes => quotes.later ordered1 grows) distinct1
    (given object)
  obtain ⟨i, w, s', evaluated⟩ := h.toWorks.evalNew_gives names done known makes ofClass
  have same : Outcome.done (ε := Failure) (⟨.object i, w⟩ : Justified) s' =
      .done ⟨.object s1.scopes.size, object.graph.size⟩ s2 :=
    evaluated.done.symm.trans (begins.trans makes2)
  cases same
  have before := records1.grows.trans grows
  refine ⟨_, _, _, ⟨evaluated.done, evaluated.adds, evaluated.quiet, records2.ordered ordered,
    before.trans records2.grows, before.size, ?_⟩, evaluated.holds⟩
  simpa using quotes

/-- A number that is made of a literal holds because it has been asked for. -/
lemma Able.num_cites (names : s.Names .num) {n : Int}
    (written : Clear needle s!"'{n}' is in my program") (made : Clear needle s!"new Num({n})")
    (given : Clear needle s!"newObject Num({n})") (steps : Nat) (loc : Location) :
    ∃ i w s', s.Cites needle (Because.eval (steps + 2) (.num loc n) why s) (.object i) asks w s' ∧
      Is (Handle.number (some n)) (.object i) s' := by
  let info : Justified := ⟨.int n, s.graph.size⟩
  let s1 : Session := { s with graph := s.graph.push (.text s!"'{n}' is in my program") [] none }
  have records : s.Adduces (.text s!"'{n}' is in my program") [] s1 := s.records_text _
  have evaluates : evalArgs (.within (steps + 1)) why [.const loc (.int n)] s = .done [info] s1 :=
    rfl
  have literal : s1.graph.Quotes needle s.graph.size [] :=
    records.quotes apart h.ordered .nil List.nodup_nil written
  have able : s1.Able :=
    ⟨h.notes records.toNotes, records.ordered h.ordered⟩
  have makes : Native.construct .num [info] = Action.ofExcept (.ok (.number (some n) info.why)) :=
    rfl
  have distinct : (why :: reasons [info]).Nodup := by
    simp [reasons, info, Nat.ne_of_lt asked.lt]
  obtain ⟨i, w, s', cites, state, ofClass⟩ := able.evalNew_cites apart
    (asked.later h.ordered records.grows) ((Adds.of_notes records.toNotes).names h.toWorks names)
    evaluates (.cons literal .nil) distinct makes rfl made fun _ => given
  simp only [List.flatten_cons, List.flatten_nil, List.append_nil] at cites
  exact ⟨i, w, s',
    cites.after (.of_notes records.toNotes) (.of_notes records.toNotes) records.grows,
    s.graph.size, state, Nat.lt_of_lt_of_le literal.lt cites.grows.size, ofClass⟩

omit h apart asked in
/-- An object that has a class is there. -/
lemma object_lies {id : ClassId} (ofClass : s.classOf? (.object i) = some id) :
    Value.In s.census (.object i) := by
  obtain ⟨tag, tagged, -⟩ := Option.map_eq_some_iff.1 ofClass
  have found : (s.scopes.scopeAt i).tag = some tag := tagged
  exact ⟨Comparison.lt_size_of_tag (found ▸ rfl), found ▸ rfl⟩

omit h apart asked in
/-- A value that is an object lies in the session. -/
lemma Is.lies {state : ReasonId → Handle} (is : Is state value s) : value.In s.census := by
  obtain ⟨i, rfl⟩ := is.object
  obtain ⟨_, -, -, ofClass⟩ := is
  exact object_lies ofClass

omit h apart asked in
/-- Values that are objects lie in the session. -/
lemma Is.all_lie {α : Type} {state : α → ReasonId → Handle} {infos : List Justified}
    {states : List α} (are : List.Forall₂ (fun info x => Is (state x) info.value s) infos states) :
    ∀ info ∈ infos, info.value.In s.census := by
  induction are with
  | nil => exact List.forall_mem_nil _
  | cons is _ ih => exact List.forall_mem_cons.2 ⟨is.lies, ih⟩

/-- The sum of objects of a built-in class holds because it has been asked for, and because of its
operands. -/
lemma Able.plus_cites {α : Type} {builtin : Builtin} {state : α → ReasonId → Handle}
    {join : α → α → Except NativeFault α} (joins : Joins builtin state join)
    (names : s.Names builtin) (room : s.calls.isFull = false) (sound : s.Sound)
    {operands : List Expr} {infos : List Justified} {first total : α} {others : List α}
    {lists : List (List ReasonId)}
    (done : evalArgs (.within (steps + 2)) why operands now = .done infos s)
    (are : List.Forall₂ (fun info x => Is (state x) info.value s) infos (first :: others))
    (each : List.Forall₂ (s.graph.Quotes needle) (reasons infos) lists)
    (distinct : (why :: reasons infos).Nodup) (folded : others.foldlM join first = .ok total)
    (clear : ∀ i t, Is (state total) (.object i) t →
      Clear needle s!"{Node.variableText expr.text} = {Session.render t (.object i)}") :
    ∃ i w s', s.Cites needle (evalPlus (.within (steps + 2)) expr operands why now) (.object i)
      (asks ++ lists.flatten) w s' ∧ Is (state total) (.object i) s' := by
  have objects := expectOperands_done expr are
  obtain ⟨info, rest, isFirst, areOthers, rfl⟩ := List.forall₂_cons_right_iff.1 are
  have known : s.graph.Knows (why :: reasons (info :: rest)) :=
    Graph.Quotes.known (.cons asked each)
  obtain ⟨i, w, s1, given⟩ :=
    (h.toWorks.joinOperands_folds joins steps names room isFirst areOthers known).1 total folded
  obtain ⟨recorded, others⟩ := List.forall_mem_cons.1 known
  obtain ⟨recordedFirst, recordedOthers⟩ := List.forall_mem_cons.1 others
  have lie : Justified.AllIn s.census rest := fun other mem =>
    ⟨Is.all_lie areOthers other mem, recordedOthers _ (List.mem_map_of_mem mem)⟩
  have sims := Comparison.joinOperands_sim (C := Comparison.tracked s.graph)
    (Comparison.tracked_insides (steps + 2)) recorded ⟨isFirst.lies, recordedFirst⟩ lie
  rw [show rest.map (Justified.rename (Comparison.tracked s.graph).rename) = rest from
    rest.map_id] at sims
  have grows := sound.gives_grows sims given.done
  obtain ⟨sound1, -⟩ := sound.gives sims given.done
  obtain ⟨s2, records, runs⟩ := evalPlus_records done objects given.done (given.adds.knows known)
  have quotes := records.quotes apart sound1.ordered
    ((List.Forall₂.cons asked each).imp fun _ _ quotes => quotes.later h.ordered grows) distinct
    (clear i s1 given.holds)
  exact ⟨i, s1.graph.size, s2, ⟨runs, given.adds.trans (.of_notes records.toNotes),
    given.quiet.trans (.of_notes records.toNotes), records.ordered sound1.ordered,
    grows.trans records.grows, grows.size, quotes⟩,
    (stays_is _).adds (.of_notes records.toNotes) given.holds⟩

end

/-! ## Statements -/

/-- What is given for a reason that quotes numbers is given. -/
lemma Cites.given {o : Outcome Failure Justified}
    (h : s.Cites needle o (.object i) quoted w s') : s.GivenAs (fun _ _ => True) o i w s' :=
  ⟨h.done, h.adds, h.quiet, h.quotes.lt, trivial⟩

/-- The session in which a scope binds a name to a value. -/
def withBinding (s : Session) (i : ScopeId) (name : String) (info : Justified) : Session :=
  { s with scopes := s.scopes.bind i name info }

/-- A name that has just been bound is found. -/
lemma withBinding_local (made : Nat.lt i s.scopes.size) (name : String) (info : Justified) :
    (s.withBinding i name info).scopes.local? i name = some info :=
  (Scopes.local_bind ..).trans (if_pos ⟨⟨rfl, made⟩, rfl⟩)

section

variable (apart : Apart needle) (asked : s.graph.Quotes needle why asks)

include apart asked

/-- A property gets its value because the assignment has been asked for, and because of the
value. -/
lemma Able.setProperty_cites (h : s.Able) {owner : Expr} {owning : List ReasonId} {u : ReasonId}
    (owned : s.Cites needle (Because.eval steps owner why s) (.object i) owning u now)
    (bound : s.scopes.binds i name = true)
    (evaluates : now.Cites needle (Because.eval steps expr why now) value quoted w later)
    (clear : Clear needle s!"{Node.variableText
      (propertyText (later.render (.object i)) name)} = {later.render value}")
    (loc : Location) :
    ∃ t, later.Tells t ∧ t.graph.Ordered ∧
      t.graph.Quotes needle later.graph.size (asks ++ quoted) ∧
      Because.exec (steps + 1) (.setProperty loc owner name expr) why s =
        .done .normal (t.withBinding i name ⟨value, later.graph.size⟩) := by
  let shown := propertyText (later.render (.object i)) name
  let text := later.render value
  have asked' := evaluates.keeps owned.ordered (owned.keeps h.ordered asked)
  obtain ⟨t, told, records⟩ := @record_records later (.full shown text why [w]) [why, w]
    (Graph.Quotes.known (.cons asked' (.cons evaluates.quotes .nil))) rfl (some loc)
  have distinct : [why, w].Nodup := by
    simp [evaluates.ne (owned.keeps h.ordered asked)]
  have quotes := records.quotes apart evaluates.ordered
    (.cons asked' (.cons evaluates.quotes .nil)) distinct clear
  refine ⟨t, records.toTells, records.ordered evaluates.ordered, by simpa using quotes, ?_⟩
  have adds := owned.adds.trans evaluates.adds
  have bounds {s' : Session} (adds : s.Adds s') : s'.scopes.binds i name = true := by
    rw [adds.binds (Scopes.lt_of_binds bound), bound]
  have evaluated : (Inner.within steps).eval owner why s = .done ⟨.object i, u⟩ now := owned.done
  have evaluated' : (Inner.within steps).eval expr why now = .done ⟨value, w⟩ later :=
    evaluates.done
  have told : Action.full shown text loc why [w] later = .done later.graph.size t := told
  have renders (v : Value) : Action.render (ε := Failure) v later = .done (later.render v) later :=
    rfl
  have assigns : Action.assign i name ⟨value, later.graph.size⟩ t =
      .done () (t.withBinding i name ⟨value, later.graph.size⟩) :=
    assign_bound (bounds (adds.trans (.of_notes records.toNotes))) _
  have runs : execSetProperty (.within steps) owner name expr loc why s =
      .done () (t.withBinding i name ⟨value, later.graph.size⟩) := by
    rw [execSetProperty_eq evaluated, Action.bind_done (expectOwner_allowed (bounds owned.adds)),
      Action.bind_done evaluated', Action.bind_done (renders _), assignTo,
      Action.bind_done (renders _), Action.bind_done told, Action.mapError, assigns]
  change (execSetProperty (.within steps) owner name expr loc why >>= fun _ =>
    pure Flow.normal : Eval Flow) s = _
  rw [Action.bind_done runs]
  rfl

/-- A variable that is declared gets its value because it has been declared, and because of the
value. -/
lemma Healthy.declare_cites (h : s.Healthy) (free : s.scopes.binds s.currentScope name = false)
    (evaluates : (s.withVariable name).Cites needle
      (Because.eval steps expr why (s.withVariable name)) (.object i) quoted w later)
    (clear : Clear needle s!"{Node.variableText name} = {later.render (.object i)}")
    (loc : Location) :
    ∃ t, later.Tells t ∧ t.graph.Quotes needle later.graph.size (asks ++ quoted) ∧
      Because.exec (steps + 1) (.declare loc name expr) why s =
        .done .normal (t.withBinding s.currentScope name ⟨.object i, later.graph.size⟩) := by
  obtain ⟨t, _, records, rfl, done, -⟩ :=
    h.declare_records asked.lt free evaluates.given loc
  have declared : s.graph.Grows (s.withVariable name).graph := .push ..
  have asked' := asked.later h.sound.ordered declared
  have ordered : (s.withVariable name).graph.Ordered :=
    (s.records_text _).ordered h.sound.ordered
  have distinct : [why, w].Nodup := by
    simp [evaluates.ne asked']
  have quotes := records.quotes apart evaluates.ordered
    (.cons (evaluates.keeps ordered asked') (.cons evaluates.quotes .nil)) distinct clear
  exact ⟨t, records.toTells, by simpa using quotes, done⟩

/-- A variable that a program declares outside of all calls means the value from then on. -/
lemma Outside.declare_cites {config : Config} {taken : List String} {console : Console}
    (h : s.Outside config taken console) (new : name ∉ taken)
    (evaluates : (s.withVariable name).Cites needle
      (Because.eval steps expr why (s.withVariable name)) (.object i) quoted w later)
    (clear : Clear needle s!"{Node.variableText name} = {later.render (.object i)}")
    (loc : Location) :
    ∃ s', Because.exec (steps + 1) (.declare loc name expr) why s = .done .normal s' ∧
      s'.Outside config (name :: taken) console ∧
      later.Alters (globals [name]) (fun _ => False) s' ∧ later.graph.Grows s'.graph ∧
      s'.global? name = some ⟨.object i, later.graph.size⟩ ∧
      s'.graph.Quotes needle later.graph.size (asks ++ quoted) := by
  have free : s.scopes.binds s.currentScope name = false := h.currentScope ▸ h.free name new
  obtain ⟨t, tells, quotes, done⟩ :=
    h.toHealthy.declare_cites apart asked free evaluates clear loc
  obtain ⟨healthy, same⟩ := h.toHealthy.exec asked.lt done
  have written := s.withVariable_alters name
  have adds := Adds.of_notes tells.toNotes
  have bound := (adds.alters _ _).trans
    (.bind (s := t) s.currentScope name ⟨.object i, later.graph.size⟩ fun _ => False)
  have all := (written.trans (evaluates.adds.alters _ _)).trans bound
  have console := (evaluates.quiet.trans (.of_notes tells.toNotes)).console
  refine ⟨_, done, h.after healthy (h.writes_global all) (fun _ => And.right)
    (List.forall_mem_singleton.2 new) same (console.trans h.shows), h.writes_global bound,
    tells.grows, ?_, quotes⟩
  have made : Nat.lt globalScope t.scopes.size := Nat.lt_of_lt_of_le h.works.made
    (Nat.le_trans written.scopes (Nat.le_trans evaluates.adds.scopes adds.scopes))
  rw [h.currentScope]
  exact withBinding_local made name _

/-! ## Calls -/

/-- The body of a method has begun, and the reason for which it runs quotes these numbers. -/
structure Enters (needle : String) (s : Session) (function : FunctionDef) (target : Justified)
    (inside : List ReasonId) (now : Session) : Prop where
  begun : s.Begun function [target] s.graph.size now
  able : now.Able
  grows : s.graph.Grows now.graph
  quotes : now.graph.Quotes needle s.graph.size inside

/-- A method runs because it has been called. -/
lemma Able.call_enters (h : s.Able) {function : FunctionDef} {f : FunctionId} {target : Justified}
    (is : s.functionAt f = function) (params : function.params = [selfName])
    (room : s.calls.isFull = false) (recorded : Nat.lt target.why s.graph.size)
    (single : '\n' ∉ s!"called {function.name}".toList) :
    ∃ now, s.Opens function [target] why s.graph.size now ∧
      s.Enters needle function target
        ((if Text.mentions needle s!"called {function.name}" then [s.graph.size] else []) ++ asks)
        now ∧
      ∀ inner : Inner, s.EndsLike now (runStatements inner s.graph.size function.body now)
        (Because.callFunction inner f [target] why s) := by
  have counts : [target].length = function.params.length := (congrArg List.length params).symm
  have distinct : function.params.Nodup := by
    rw [params]
    exact List.nodup_singleton _
  obtain ⟨called, now, begun, opens, ends⟩ := h.toWorks.callFunction_begun is counts distinct room
    (List.forall_mem_cons.2 ⟨asked.lt, List.forall_mem_singleton.2 recorded⟩)
  obtain rfl := opens.called
  refine ⟨now, opens, ?_, ends⟩
  obtain ⟨-, location, same⟩ := opens
  have records : s.Adduces (.conj s!"called {function.name}") [why]
      { s with graph := now.graph } := by
    rw [same]
    exact @records_push s (.conj s!"called {function.name}") [why]
      (List.forall_mem_singleton.2 asked.lt) trivial location
  have quotes := records.quotes_own apart h.ordered (.cons asked .nil) (List.nodup_singleton _)
    single
  rw [List.flatten_cons, List.flatten_nil, List.append_nil] at quotes
  exact ⟨begun, ⟨⟨begun.adds.works h.toWorks, begun.knows, begun.seen⟩, records.ordered h.ordered⟩,
    records.grows, quotes⟩

end

/-- The body of a function that is called in a sound session begins in a sound one. -/
lemma Opens.sound {function : FunctionDef} {args : List Justified} {called : ReasonId}
    (h : s.Opens function args why called now) (sound : s.Sound)
    (recorded : Nat.lt why s.graph.size) (lie : Justified.AllIn s.census args)
    (owner : function.In s.census) : now.Sound := by
  obtain ⟨-, location, rfl⟩ := h
  let graph := s.graph.push (.conj s!"called {function.name}") [why] location
  let body := s.bodySession function (function.params.zip args) graph
  have records : s.Adduces (.conj s!"called {function.name}") [why] { s with graph } :=
    @records_push s (.conj s!"called {function.name}") [why]
      (List.forall_mem_singleton.2 recorded) trivial location
  have scopes : body.scopes.size = s.scopes.size + 1 := Scopes.size_push ..
  have le : s.census.Le body.census :=
    census_le (Graph.Grows.push ..).size (Nat.le.intro scopes.symm)
      (fun _ tagged => Comparison.tag_push _ tagged) (Nat.le_refl _) (Nat.le_refl _)
  have known := sound.known.mono le
  refine ⟨{ known with scopes := known.scopes.push ?_, entered := ?_, frames := ?_ },
    records.ordered sound.ordered⟩
  · refine ⟨fun entry mem => ?_, fun parent mem => ?_, nofun⟩
    · exact (lie entry.2 (List.of_mem_zip mem).2).mono le
    · cases mem
      exact known.global
  · exact List.forall_mem_cons.2
      ⟨Nat.lt_of_lt_of_eq (Nat.lt_succ_self _) scopes.symm, known.entered⟩
  · exact List.forall_mem_cons.2 ⟨fun id mem => le.classId (owner id mem), known.frames⟩

/-- An object that was not there before may have a name bound. -/
lemma Adds.withBinding (adds : s.Adds s') (new : s.scopes.size ≤ i) (name : String)
    (info : Justified) : s.Adds (s'.withBinding i name info) where
  graph := adds.graph
  scopes := Nat.le_trans adds.scopes (Nat.le_of_eq (Scopes.size_update ..).symm)
  old j lt := by
    have ne : i ≠ j := Nat.ne_of_gt (Nat.lt_of_lt_of_le lt new)
    rw [← adds.old j lt]
    exact (Scopes.scopeAt_update ..).trans (if_neg fun here => ne here.1)
  classes := adds.classes
  functions := adds.functions

/-- A call has given None. Besides the reasons and objects that have been made, it has bound a name
in an object to a value, for a reason that quotes these numbers. -/
structure Puts (needle : String) (s : Session) (call : Outcome Failure Justified) (i : ScopeId)
    (name : String) (info : Justified) (quoted : List ReasonId) (s' : Session) : Prop where
  done : ∃ why, call = .done ⟨.none, why⟩ s' ∧ Nat.lt why s'.graph.size
  before : ∃ t, s.Adds t ∧ (t.withBinding i name info).Adds s'
  quiet : s.Quiet s'
  ordered : s'.graph.Ordered
  grows : s.graph.Grows s'.graph
  new : s.graph.size ≤ info.why
  quotes : s'.graph.Quotes needle info.why quoted

namespace Puts

variable {call : Outcome Failure Justified} (h : s.Puts needle call i name stored quoted s')

include h

/-- Only the name is written. -/
lemma alters : s.Alters (fun j other => j = i ∧ other = name) (fun _ => False) s' := by
  obtain ⟨t, adds, later⟩ := h.before
  exact ((adds.alters _ _).trans (.bind i name stored _)).trans (later.alters _ _)

/-- The name holds the value. -/
lemma found (made : Nat.lt i s.scopes.size) : s'.scopes.local? i name = some stored := by
  obtain ⟨t, adds, later⟩ := h.before
  have lt : Nat.lt i t.scopes.size := Nat.lt_of_lt_of_le made adds.scopes
  have inside : Nat.lt i (t.withBinding i name stored).scopes.size :=
    Nat.lt_of_lt_of_eq lt (Scopes.size_update ..).symm
  rw [later.local? inside]
  exact withBinding_local lt name stored

/-- What ends as the call does has the same effect. -/
lemma reported {o : Outcome Failure Justified} (reports : s'.Reports .none o) :
    ∃ s'', s'.Tells s'' ∧ s.Puts needle o i name stored quoted s'' := by
  obtain ⟨w, s'', done, tells, fresh⟩ := reports
  obtain ⟨t, adds, later⟩ := h.before
  exact ⟨s'', tells, ⟨w, done, fresh⟩, ⟨t, adds, later.trans (.of_notes tells.toNotes)⟩,
    h.quiet.trans (.of_notes tells.toNotes), tells.ordered h.ordered, h.grows.trans tells.grows,
    h.new, h.quotes.later h.ordered tells.grows⟩

/-- It makes no difference what has been told before. -/
lemma after {first : Session} (tells : first.Tells s) :
    first.Puts needle call i name stored quoted s' := by
  obtain ⟨t, adds, later⟩ := h.before
  exact { h with
    before := ⟨t, (Adds.of_notes tells.toNotes).trans adds, later⟩
    quiet := (Quiet.of_notes tells.toNotes).trans h.quiet
    grows := tells.grows.trans h.grows
    new := Nat.le_trans tells.graph h.new }

/-- The object may be new as well. -/
lemma adds (older : s''.Adds s) (new : s''.scopes.size ≤ i) : s''.Adds s' := by
  obtain ⟨t, adds, later⟩ := h.before
  exact ((older.trans adds).withBinding new name stored).trans later

end Puts

section

variable (h : s.Able) (apart : Apart needle) (asked : s.graph.Quotes needle why asks)

include h apart asked

/-- A method that gives a property of its object another value has been called. -/
lemma Able.call_sets {function : FunctionDef} {f : FunctionId} {loc loc' : Location}
    {owning inside : List ReasonId} {P : Value → Session → Prop} (stays : Stays P)
    (is : s.functionAt f = function) (params : function.params = [selfName])
    (body : function.body = [.setProperty loc (.get loc' selfName) name expr])
    (room : s.calls.isFull = false) (has : s.graph.Quotes needle w owning)
    (bound : s.scopes.binds i name = true)
    (single : '\n' ∉ s!"called {function.name}".toList)
    (own : inside =
      (if Text.mentions needle s!"called {function.name}" then [s.graph.size] else []) ++ asks)
    (reads : Clear needle s!"{Node.variableText selfName} = {s.render (.object i)}")
    (clear : ∀ j t, P (.object j) t → Clear needle s!"{Node.variableText
      (propertyText (s.render (.object i)) name)} = {t.render (.object j)}")
    (evaluates : ∀ now later, s.Opens function [⟨.object i, w⟩] why s.graph.size now →
      s.Enters needle function ⟨.object i, w⟩ inside now → now.Tells later → later.Able →
      later.graph.Quotes needle s.graph.size inside → ∃ j u last,
        later.Cites needle (Because.eval (steps + 1) expr s.graph.size later) (.object j) quoted u
          last ∧ P (.object j) last) :
    ∃ j v s', s.Puts needle (Because.call (steps + 3) f [⟨.object i, w⟩] why s) i name
        ⟨.object j, v⟩ (inside ++ quoted) s' ∧ P (.object j) s' := by
  have recorded : Nat.lt (⟨.object i, w⟩ : Justified).why s.graph.size := has.lt
  obtain ⟨now, opens, enters, ends⟩ := h.call_enters apart asked is params room recorded single
  rw [← own] at enters
  have begun := enters.begun
  have made : Nat.lt i s.scopes.size := Scopes.lt_of_binds bound
  have shown {t : Session} (adds : s.Adds t) : t.render (.object i) = s.render (.object i) :=
    adds.unaltered.render made id
  have self : now.scopes.tryGet now.currentScope selfName = some ⟨.object i, w⟩ := by
    have bound := begun.bound
    rw [params] at bound
    exact (List.forall₂_cons.1 bound).1
  -- The body reads its object, evaluates what the property is to get, and assigns it.
  obtain ⟨later, tells, owned⟩ := enters.able.get_cites apart enters.quotes self
    (has.later h.ordered enters.grows) (Nat.ne_of_gt has.lt) ((shown begun.adds).symm ▸ reads) steps
    loc'
  obtain ⟨j, u, last, cites, holds⟩ := evaluates now later opens enters tells
    (owned.able enters.able) (owned.keeps enters.able.ordered enters.quotes)
  have adds := begun.adds.trans (owned.adds.trans cites.adds)
  have bounds : now.scopes.binds i name = true := by
    rw [begun.adds.binds made, bound]
  obtain ⟨t, told, ordered, quotes, runs⟩ := enters.able.setProperty_cites apart enters.quotes owned
    bounds cites ((shown adds).symm ▸ clear j last holds) loc
  let left := t.withBinding i name ⟨.object j, last.graph.size⟩
  have ran : runStatements (.within (steps + 2)) s.graph.size function.body now =
      .done .normal left := by
    rw [body, runStatements_one]
    exact runs
  have notes := Quiet.of_notes told.toNotes
  have quiet : now.Quiet left :=
    (owned.quiet.trans (cites.quiet.trans notes)).trans ⟨⟨rfl, rfl⟩, rfl⟩
  -- Since the body has not returned anything, the call gives None, for a reason of its own.
  obtain ⟨v, s', done, after, fresh⟩ := (ends _).gives ran quiet.toSameStacks .falls
  have before : s.Adds t := adds.trans (.of_notes told.toNotes)
  have goes : left.Adds (s.afterCall left) := { Adds.refl left with }
  have behind := goes.trans (.of_notes after.toNotes)
  have balanced : s.Quiet (s.afterCall left) := ⟨⟨rfl, rfl⟩, quiet.console.trans begun.console⟩
  refine ⟨j, last.graph.size, s', ⟨⟨v, done, fresh⟩, ⟨t, before, behind⟩,
    balanced.trans (.of_notes after.toNotes), after.ordered ordered,
    (enters.grows.trans (owned.grows.trans (cites.grows.trans told.grows))).trans after.grows,
    (enters.grows.trans (owned.grows.trans cites.grows)).size,
    quotes.later ordered after.grows⟩, ?_⟩
  exact stays.adds behind (stays (.bind ..) (stays.adds (.of_notes told.toNotes) holds))

/-- A method without further parameters is called because the call has been asked for, and because
of its object. -/
lemma Able.methodCall_cites {object : Expr} {owning : List ReasonId} {loc : Location}
    {method : String} {id : ClassId} {f : FunctionId}
    (evaluates : s.Cites needle (Because.eval steps object why s) (.object i) owning w now)
    (ofClass : now.classOf? (.object i) = some id)
    (table : (now.classAt id).methods.get? method = some f)
    (served : Clear needle s!"({now.render (.object i)}) instanceof {(now.classAt id).text}")
    (chosen : Clear needle (Kind.equal selfName (now.classAt id).name).wording)
    (evaluated : Clear needle s!"Evaluated {(Expr.methodCall loc object method []).text}") :
    ∃ context t, now.Tells t ∧ t.graph.Ordered ∧
      t.graph.Quotes needle context (asks ++ owning) ∧
      t.Conveys ((Inner.within steps).call f [⟨.object i, w⟩] context t)
        (Because.eval (steps + 1) (.methodCall loc object method []) why s) := by
  obtain ⟨s1, s2, records1, records2, conveys⟩ := methodCall_conveys loc method [] f asked.lt
    evaluates.done evaluates.grows.size evaluates.quotes.lt ofClass
  have ordered1 := records1.ordered evaluates.ordered
  have class1 (id : ClassId) : s1.classAt id = now.classAt id :=
    (Adds.of_notes records1.toNotes).classAt id
  have reason1 := records1.quotes apart evaluates.ordered .nil List.nodup_nil served
  have reason2 := records2.quotes apart ordered1 (.cons reason1 .nil) (List.nodup_singleton _)
    ((class1 id).symm ▸ chosen)
  have tells := records1.toTells.trans records2.toTells
  have ordered2 := tells.ordered evaluates.ordered
  have table2 : (s2.classAt id).methods.get? method = some f := by
    rw [(Adds.of_notes tells.toNotes).classAt, table]
  obtain ⟨s3, records3, conveys⟩ :=
    conveys rfl (Nat.le_refl _) (List.forall_mem_nil _) table2
  have older := evaluates.ne asked
  have newer : w < s1.graph.size := Nat.lt_of_lt_of_le evaluates.quotes.lt records1.grows.size
  have distinct : (why :: w :: s1.graph.size :: reasons []).Nodup := by
    have first : why < s1.graph.size :=
      Nat.lt_of_lt_of_le asked.lt (Nat.le_trans evaluates.grows.size records1.grows.size)
    simp [reasons, older, Nat.ne_of_lt first, Nat.ne_of_lt newer]
  have quotes := records3.quotes apart ordered2
    (.cons ((evaluates.keeps h.ordered asked).later evaluates.ordered tells.grows)
      (.cons (evaluates.quotes.later evaluates.ordered tells.grows) (.cons reason2 .nil)))
    distinct evaluated
  exact ⟨s2.graph.size, s3, tells.trans records3.toTells, records3.ordered ordered2,
    by simpa using quotes, conveys⟩

end

end Session

end Because
