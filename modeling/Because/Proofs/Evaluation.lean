import Because.Program.Build
import Because.Proofs.Filling
import Because.Proofs.Operands

/-!
# How expressions are evaluated

What comes of evaluating an expression follows from what comes of evaluating the expressions
immediately inside it, as long as these only record reasons and make objects: what a variable means,
an object that is made of a literal, and what a call gives of a method that the table of a class
names.
-/

namespace Because

namespace Session

variable {s s' : Session} {builtin : Builtin} {steps : Nat} {name : String} {loc : Location}
  {why : ReasonId} {P Q : Value → Session → Prop} {i : ScopeId}

/-! ## Sessions in which expressions are evaluated -/

/-- The built-in classes are in working order; the scopes in which variables are sought are there,
and what these hold rests on reasons that have been recorded. -/
structure Apt (s : Session) : Prop extends s.Works where
  knows : s.KnowsVariables
  seen : ∀ i ∈ s.visible, Nat.lt i s.scopes.size

/-- With the same stacks the same scope is the current one. -/
lemma SameStacks.currentScope (same : s.SameStacks s') : s'.currentScope = s.currentScope := by
  rw [Session.currentScope, same.entered, ← Session.currentScope]

namespace Apt

section

variable {written : Places} {restated : ScopeId → Prop} (h : s.Apt)
  (alters : s.Alters written restated s') (same : s.SameStacks s')

include h alters same

/-- The same scopes are visible, as no scope that was there has got another parent. -/
lemma visible : s'.visible = s.visible := by
  rw [Session.visible, same.currentScope]
  exact alters.chainFrom h.seen

/-- Variables that have not been written keep their values. -/
lemma tryGet (spared : ∀ i ∈ s.visible, ¬ written i name) :
    s'.scopes.tryGet s'.currentScope name = s.scopes.tryGet s.currentScope name := by
  rw [same.currentScope]
  exact alters.tryGet h.seen spared

/-- Names that have not been written keep their meaning. -/
lemma meaning? (spared : ∀ i ∈ s.visible, ¬ written i name) :
    s'.meaning? name = s.meaning? name := by
  rw [Session.meaning?, h.tryGet alters same spared, ← Session.meaning?]

end

/-- Expressions can still be evaluated after reasons and objects have been made. -/
lemma after (h : s.Apt) (adds : s.Adds s') (same : s.SameStacks s') : s'.Apt where
  toWorks := adds.works h.toWorks
  knows name stored found := by
    rw [h.tryGet adds.unaltered same fun _ _ => id] at found
    exact Nat.lt_of_lt_of_le (h.knows name stored found) adds.graph
  seen i mem := by
    rw [h.visible adds.unaltered same] at mem
    exact Nat.lt_of_lt_of_le (h.seen i mem) adds.scopes

/-- Expressions can still be evaluated after reasons have been recorded. -/
lemma notes (h : s.Apt) (notes : s.Notes s') : s'.Apt :=
  h.after (.of_notes notes) (Quiet.of_notes notes).toSameStacks

end Apt

/-- In a healthy session, expressions can be evaluated. -/
lemma Healthy.apt (h : s.Healthy) : s.Apt where
  toWorks := h.works
  knows := h.sound.knowsVariables
  seen i mem := (h.inOrder.visible_ordinary i mem).made

/-- What is given, and what has been in the session before. -/
lemma GivenAs.apt {ε : Type} {o : Outcome ε Justified} (given : s.GivenAs P o i why s')
    (h : s.Apt) : s'.Apt :=
  h.after given.adds given.quiet.toSameStacks

/-! ## Expressions -/

/-- For whatever reason the expression is evaluated, it gives an object of which `P` holds; besides
it only reasons and other objects are made. -/
def Evaluates (s : Session) (steps : Nat) (expr : Expr) (P : Value → Session → Prop) : Prop :=
  ∀ why, Nat.lt why s.graph.size → s.Gives P (Because.eval steps expr why s)

/-- What holds of what is given may be weakened. -/
lemma Gives.mono {ε : Type} {o : Outcome ε Justified} (h : s.Gives P o)
    (weaker : ∀ value s', P value s' → Q value s') : s.Gives Q o := by
  obtain ⟨i, why, s', given⟩ := h
  exact ⟨i, why, s', { given with holds := weaker _ _ given.holds }⟩

/-- What holds of the value of an expression may be weakened. -/
lemma Evaluates.mono {expr : Expr} (h : s.Evaluates steps expr P)
    (weaker : ∀ value s', P value s' → Q value s') : s.Evaluates steps expr Q :=
  fun why recorded => (h why recorded).mono weaker

/-- A variable gives what it means. -/
lemma Apt.get_evaluates (h : s.Apt) (means : s.meaning? name = some (.object i)) (steps : Nat)
    (loc : Location) : s.Evaluates (steps + 1) (.get loc name) fun value _ => value = .object i := by
  intro why recorded
  obtain ⟨⟨value, read⟩, s', done, notes, same, fresh⟩ | ⟨failure, s', -, -, none⟩ :=
    lookupVariable_cases h.knows name loc recorded
  · obtain rfl : value = .object i := Option.some_inj.1 (same.symm.trans means)
    exact ⟨i, read, s', done, .of_notes notes, .of_notes notes, fresh, rfl⟩
  · rw [means] at none
    cases none

/-- What holds of the object that a variable means holds of what the variable gives. -/
lemma Apt.variable_evaluates (h : s.Apt) (means : s.meaning? name = some (.object i))
    (stays : Stays P) (holds : P (.object i) s) (steps : Nat) (loc : Location) :
    s.Evaluates (steps + 1) (.get loc name) fun value s' => value = .object i ∧ P value s' := by
  intro why recorded
  obtain ⟨j, w, s', given⟩ := h.get_evaluates means steps loc why recorded
  cases given.holds
  exact ⟨_, w, s', { given with holds := ⟨rfl, stays.adds given.adds holds⟩ }⟩

/-- An object is made of arguments that have been evaluated, for a reason of its own. -/
lemma evalNew_runs {now : Session} {inner : Inner} {args : List Expr} {infos : List Justified}
    (done : evalArgs inner why args now = .done infos s)
    (known : s.graph.Knows (why :: reasons infos)) (className : String) :
    ∃ s1, s.Adduces (.conj s!"new {className}({s.renderAll infos})") (why :: reasons infos) s1 ∧
      Because.evalNew inner className args why now =
        Because.newObject inner className infos s.graph.size s1 := by
  have renders : Action.renderAll (ε := Failure) infos s = .done (s.renderAll infos) s := rfl
  obtain ⟨s1, told, records⟩ := @record_records s
    (.conj s!"new {className}({s.renderAll infos})") _ known trivial none
  have told : Action.conj s!"new {className}({s.renderAll infos})" (why :: reasons infos) s =
      .done s.graph.size s1 := told
  refine ⟨s1, records, ?_⟩
  rw [Because.evalNew, Action.bind_done done, Action.bind_done renders, Action.bind_done told]

/-- By the name of a built-in class, an object of it is made of arguments that have been
evaluated. -/
lemma Works.evalNew_gives {now : Session} {args : List Expr} {infos : List Justified}
    {handle : Handle} (works : s.Works) (names : s.Names builtin)
    (done : evalArgs (.within steps) why args now = .done infos s)
    (known : s.graph.Knows (why :: reasons infos))
    (makes : Native.construct builtin infos = Action.ofExcept (.ok handle))
    (ofClass : handle.builtin = builtin) :
    s.Gives (fun value s' => s'.handle? value = some handle ∧
        s'.classOf? value = some builtin.classId)
      (Because.evalNew (.within steps) builtin.name args why now) := by
  obtain ⟨s1, records, runs⟩ := evalNew_runs done known builtin.name
  have adds := Adds.of_notes records.toNotes
  have known1 : s1.graph.Knows (s.graph.size :: reasons infos) :=
    List.forall_mem_cons.2 ⟨records.fresh, (List.forall_mem_cons.1 (adds.knows known)).2⟩
  obtain ⟨i, made, s2, given⟩ := ((adds.works works).newObject_gives (adds.names works names)
    makes ofClass known1 (.within steps)).after adds (.of_notes records.toNotes)
  exact ⟨i, made, s2, { given with done := runs.trans given.done, holds := given.holds.2 }⟩

/-- An object is made of a literal. -/
lemma Works.literal_evaluates (works : s.Works) (names : s.Names builtin) {literal : Literal}
    (state : ReasonId → Handle)
    (makes : ∀ given, Native.construct builtin [⟨.ofLiteral literal, given⟩] =
      Action.ofExcept (.ok (state given)))
    (ofClass : ∀ given, (state given).builtin = builtin) (steps : Nat) (loc loc' : Location) :
    s.Evaluates (steps + 2) (.new loc builtin.name [.const loc' literal]) (Is state) := by
  intro why recorded
  let s1 : Session :=
    { s with graph := s.graph.push (.text s!"'{literal.text}' is in my program") [] none }
  have notes : s.Notes s1 := .leaf trivial
  have fresh : Nat.lt s.graph.size s1.graph.size :=
    Nat.lt_of_lt_of_eq (Nat.lt_succ_self _) (Graph.size_push ..).symm
  have done : evalArgs (.within (steps + 1)) why [.const loc' literal] s =
      .done [⟨.ofLiteral literal, s.graph.size⟩] s1 := rfl
  have known : s1.graph.Knows (why :: reasons [⟨.ofLiteral literal, s.graph.size⟩]) :=
    List.forall_mem_cons.2
      ⟨Nat.lt_of_lt_of_le recorded notes.graph, List.forall_mem_singleton.2 fresh⟩
  have adds := Adds.of_notes notes
  obtain ⟨i, made, s2, given⟩ := (adds.works works).evalNew_gives (adds.names works names) done
    known (makes s.graph.size) (ofClass _)
  refine ⟨i, made, s2, given.done, adds.trans given.adds, (Quiet.of_notes notes).trans given.quiet,
    given.recorded, s.graph.size, given.holds.1, Nat.lt_of_lt_of_le fresh given.adds.graph, ?_⟩
  rw [ofClass, given.holds.2]

/-- A text in a program gives an object that holds it. -/
lemma Works.string_evaluates (works : s.Works) (names : s.Names .string) (steps : Nat)
    (loc : Location) (text : String) :
    s.Evaluates (steps + 2) (.string loc text) (Is (Handle.text text)) :=
  works.literal_evaluates names (Handle.text text) (fun _ => rfl) (fun _ => rfl) steps loc loc

/-- A number in a program gives an object that holds it. -/
lemma Works.num_evaluates (works : s.Works) (names : s.Names .num) (steps : Nat)
    (loc : Location) (n : Int) :
    s.Evaluates (steps + 2) (.num loc n) (Is (Handle.number (some n))) :=
  works.literal_evaluates names (Handle.number (some n)) (fun _ => rfl) (fun _ => rfl) steps loc loc

/-- A truth value in a program gives an object that holds it. -/
lemma Works.boolean_evaluates (works : s.Works) (names : s.Names .bool) (steps : Nat)
    (loc : Location) (truth : Bool) :
    s.Evaluates (steps + 2) (.boolean loc truth) (Is (Handle.truth truth)) :=
  works.literal_evaluates names (Handle.truth truth) (fun _ => rfl) (fun _ => rfl) steps loc loc

/-! ## Conditions -/

/-- An object that holds a truth value is a condition. -/
lemma expectCondition_is {info : Justified} {truth : Bool} (condition : Expr)
    (is : Is (Handle.truth truth) info.value s) :
    expectCondition info condition s = .done truth s := by
  obtain ⟨truthWhy, found, -⟩ := is
  simp only [expectCondition, Bind.bind, Action.ask, truthOf?, found]
  rfl

/-- A condition is negated. -/
lemma Apt.not_evaluates (h : s.Apt) (names : s.Names .bool) {operand : Expr} {truth : Bool}
    (evaluates : s.Evaluates steps operand (Is (Handle.truth truth))) (loc : Location) :
    s.Evaluates (steps + 1) (.not loc operand) (Is (Handle.truth !truth)) := by
  intro why recorded
  obtain ⟨i, w, s1, given⟩ := evaluates why recorded
  have makes : Native.construct .bool [⟨.bool !truth, w⟩] =
      Action.ofExcept (.ok (.truth (!truth) w)) := rfl
  have known : s1.graph.Knows (why :: reasons [⟨.bool !truth, w⟩]) :=
    List.forall_mem_cons.2 ⟨Nat.lt_of_lt_of_le recorded given.adds.graph,
      List.forall_mem_singleton.2 given.recorded⟩
  obtain ⟨j, made, s2, given2⟩ := (given.apt h).newHiddenObject_gives
    (given.adds.names h.toWorks names) makes rfl known (.within steps)
  obtain ⟨-, found, ofClass⟩ := given2.holds
  have supported : s2.graph.Knows [why, w] := given2.adds.knows known
  obtain ⟨s3, told, notes, fresh⟩ := full_done supported
    (Expr.not loc operand).text (s2.render (.object j)) (Expr.not loc operand).loc
  have adds := given2.adds.trans (.of_notes notes)
  have is : Is (Handle.truth !truth) (.object j) s2 :=
    ⟨w, found, Nat.lt_of_lt_of_le given.recorded given2.adds.graph, ofClass⟩
  refine ⟨j, s2.graph.size, s3, ?_, given.adds.trans adds,
    (given.quiet.trans given2.quiet).trans (.of_notes notes), fresh,
    (stays_is _).adds (.of_notes notes) is⟩
  have evaluated : (Inner.within steps).eval operand why s = .done ⟨.object i, w⟩ s1 := given.done
  have derives : derivedTruth (.within steps) (.not loc operand) (!truth) ⟨.object i, w⟩ why s1 =
      .done ⟨.object j, s2.graph.size⟩ s3 := by
    have made : Because.newHiddenObject (.within steps) "Bool" [⟨.bool !truth, w⟩] why s1 =
        .done ⟨.object j, made⟩ s2 := given2.done
    rw [derivedTruth, Action.bind_done made]
    simp only [Bind.bind, Action.render, Action.ask, told]
    rfl
  change evalExpr (.within steps) (.not loc operand) why s = _
  rw [evalExpr, Action.bind_done evaluated,
    Action.bind_done (expectCondition_is operand given.holds), derives]

/-! ## Arguments -/

/-- The outcome is values of which `P` holds; besides them only reasons and objects have been
made. -/
def GivesAll (s : Session) (P : List Value → Session → Prop)
    (o : Outcome Failure (List Justified)) : Prop :=
  ∃ infos s', o = .done infos s' ∧ s.Adds s' ∧ s.Quiet s' ∧ s'.graph.Knows (reasons infos) ∧
    P (infos.map Justified.value) s'

/-- No arguments. -/
abbrev Nothing (values : List Value) (_ : Session) : Prop := values = []

/-- A single argument of which `P` holds. -/
abbrev Single (P : Value → Session → Prop) (values : List Value) (s : Session) : Prop :=
  ∃ value, values = [value] ∧ P value s

/-- No arguments are given without anything being done. -/
lemma givesAll_nil (s : Session) (inner : Inner) (why : ReasonId) :
    s.GivesAll Nothing (evalArgs inner why [] s) :=
  ⟨[], s, rfl, .refl s, .refl s, List.forall_mem_nil _, rfl⟩

/-- A single argument is given if its expression gives it. -/
lemma Gives.all {arg : Expr} (h : s.Gives P (Because.eval steps arg why s)) :
    s.GivesAll (Single P) (evalArgs (.within steps) why [arg] s) := by
  obtain ⟨i, w, s', given⟩ := h
  exact ⟨_, s', evalArgs_one given.done, given.adds, given.quiet,
    List.forall_mem_singleton.2 given.recorded, _, rfl, given.holds⟩

/-- Two arguments are given if the second one is given after the first. -/
lemma Gives.both {first second : Expr} (h : s.Gives P (Because.eval steps first why s))
    (h' : ∀ i why' s', s.GivenAs P (Because.eval steps first why s) i why' s' →
      s'.Gives Q (Because.eval steps second why s')) (stays : Stays P) :
    s.GivesAll (fun values s' => ∃ x y, values = [x, y] ∧ P x s' ∧ Q y s')
      (evalArgs (.within steps) why [first, second] s) := by
  obtain ⟨i, w, s1, given⟩ := h
  obtain ⟨j, w', s2, given'⟩ := h' i w s1 given
  exact ⟨_, s2, evalArgs_two given.done given'.done, given.adds.trans given'.adds,
    given.quiet.trans given'.quiet,
    List.forall_mem_cons.2 ⟨Nat.lt_of_lt_of_le given.recorded given'.adds.graph,
      List.forall_mem_singleton.2 given'.recorded⟩,
    _, _, rfl, stays.adds given'.adds given.holds, given'.holds⟩

/-! ## Calls of methods -/

/-- An expression ends as the call that it makes, which begins in the session: with what the call
gives, be it that it succeeds or fails. -/
structure Conveys (s : Session) (call o : Outcome Failure Justified) : Prop where
  gives {result s'} : call = .done result s' → s.graph.size ≤ s'.graph.size →
    Nat.lt result.why s'.graph.size → s'.Reports result.value o
  fails {failure s'} : call = .failed failure s' → o = .failed failure s'

/-- What a call has given becomes the value of the expression that has made it. -/
def tellResult (expr : Expr) (why : ReasonId) (result : Justified) : Eval Justified := do
  let rendered ← Action.render result.value
  let called ← Action.full expr.text rendered expr.loc why [result.why]
  return ⟨result.value, called⟩

section

variable {object : Expr} {target : Justified} {id : ClassId} {servedWhy : ReasonId}

/-- A call gets to the function that the table of a class names, for a reason of its own, however
that function is run. -/
lemma callIn_begins (expr : Expr) (id : ClassId) (method : String) (args : List Expr)
    (f : FunctionId) (known : s.graph.Knows [why, target.why, servedWhy]) :
    ∃ s1, s.Adduces (.equal selfName (s.classAt id).name) [servedWhy] s1 ∧ ∀ {infos s2},
      s1.graph.size ≤ s2.graph.size → s2.graph.Knows (reasons infos) →
      (s2.classAt id).methods.get? method = some f →
      ∃ s3, s2.Adduces (.conj s!"Evaluated {expr.text}")
          (why :: target.why :: s.graph.size :: reasons infos) s3 ∧
        ∀ inner : Inner, evalArgs inner why args s1 = .done infos s2 →
          callIn inner expr target (id, servedWhy) method args why s =
            (inner.call f (target :: infos) s2.graph.size >>= tellResult expr why) s3 := by
  obtain ⟨caller, others⟩ := List.forall_mem_cons.1 known
  obtain ⟨receiver, served⟩ := List.forall_mem_cons.1 others
  obtain ⟨s1, chosen, records1⟩ :=
    @record_records s (.equal selfName (s.classAt id).name) _ served trivial none
  refine ⟨s1, records1, fun {infos s2} grows given table => ?_⟩
  have older := Nat.le_trans records1.graph grows
  have supported : s2.graph.Knows (why :: target.why :: s.graph.size :: reasons infos) :=
    List.forall_mem_cons.2 ⟨Nat.lt_of_lt_of_le caller older, List.forall_mem_cons.2
      ⟨Nat.lt_of_lt_of_le receiver older, List.forall_mem_cons.2
        ⟨Nat.lt_of_lt_of_le records1.fresh grows, given⟩⟩⟩
  obtain ⟨s3, told, records3⟩ := @record_records s2 (.conj s!"Evaluated {expr.text}") _ supported
    trivial (some expr.loc)
  have finds : findMethod id method s2.graph.size s3 = .done f s3 := by
    have same : s3.classAt id = s2.classAt id := (Adds.of_notes records3.toNotes).classAt id
    simp only [findMethod, Bind.bind, Action.ask, same, table]
    rfl
  have names : Action.ask (ε := Failure) (fun s => (s.classAt id).name) s =
      .done (s.classAt id).name s := rfl
  have chosen : Action.equal selfName (s.classAt id).name servedWhy s =
      .done s.graph.size s1 := chosen
  have told : Action.conjAt s!"Evaluated {expr.text}"
      (why :: target.why :: s.graph.size :: reasons infos) expr.loc s2 =
        .done s2.graph.size s3 := told
  refine ⟨s3, records3, fun inner evaluates => ?_⟩
  rw [callIn, Action.bind_done names, Action.bind_done chosen, Action.bind_done evaluates,
    Action.bind_done told, Action.bind_done finds]
  rfl

/-- What a call gives is what the expression that makes it gives. -/
lemma conveys_tellResult {call : Eval Justified} {s3 : Session} (expr : Expr)
    (caller : Nat.lt why s3.graph.size) :
    s3.Conveys (call s3) ((call >>= tellResult expr why) s3) := by
  refine ⟨fun {result s4} calls grows recorded => ?_, fun {failure s4} calls =>
    Action.bind_failed calls⟩
  have known4 : s4.graph.Knows [why, result.why] := List.forall_mem_cons.2
    ⟨Nat.lt_of_lt_of_le caller grows, List.forall_mem_singleton.2 recorded⟩
  obtain ⟨rendered, renders⟩ :
      ∃ text, Action.render (ε := Failure) result.value s4 = .done text s4 := ⟨_, rfl⟩
  obtain ⟨s5, told, records5⟩ := @record_records s4
    (.full expr.text rendered why [result.why]) _ known4 rfl (some expr.loc)
  have told : Action.full expr.text rendered expr.loc why [result.why] s4 =
      .done s4.graph.size s5 := told
  refine ⟨s4.graph.size, s5, ?_, records5.toTells, records5.fresh⟩
  rw [Action.bind_done calls, tellResult, Action.bind_done renders, Action.bind_done told]
  rfl

/-- A call in the table of a class ends as the function does that the table names. -/
lemma callIn_conveys (expr : Expr) (id : ClassId) (method : String) (args : List Expr)
    (f : FunctionId) (known : s.graph.Knows [why, target.why, servedWhy]) :
    ∃ s1, s.Adduces (.equal selfName (s.classAt id).name) [servedWhy] s1 ∧ ∀ {steps infos s2},
      evalArgs (.within steps) why args s1 = .done infos s2 → s1.graph.size ≤ s2.graph.size →
      s2.graph.Knows (reasons infos) → (s2.classAt id).methods.get? method = some f →
      ∃ s3, s2.Adduces (.conj s!"Evaluated {expr.text}")
          (why :: target.why :: s.graph.size :: reasons infos) s3 ∧
        s3.Conveys ((Inner.within steps).call f (target :: infos) s2.graph.size s3)
          (callIn (.within steps) expr target (id, servedWhy) method args why s) := by
  obtain ⟨s1, records1, begins⟩ := callIn_begins expr id method args f known
  refine ⟨s1, records1, fun {steps infos s2} evaluates grows given table => ?_⟩
  obtain ⟨s3, records3, calls⟩ := begins grows given table
  have caller : Nat.lt why s3.graph.size := Nat.lt_of_lt_of_le (known why List.mem_cons_self)
    (Nat.le_trans (Nat.le_trans records1.graph grows) records3.graph)
  refine ⟨s3, records3, ?_⟩
  rw [calls _ evaluates]
  exact conveys_tellResult expr caller

/-- A call of `super` gets to the function that is in the table of the parent of the class that
defines the running method, however that function is run. -/
lemma superCall_begins {stored : Justified} {owner parent : ClassId}
    (self : s.scopes.tryGet s.currentScope selfName = some stored)
    (known : s.graph.Knows [why, stored.why]) (runs : s.calls.owner? = some owner)
    (above : (s.classAt owner).parent = some parent) (loc : Location) (method : String)
    (args : List Expr) (f : FunctionId) :
    ∃ s1, s.Notes s1 ∧ s.graph.size < s1.graph.size ∧ ∀ {infos s2},
      s1.graph.size ≤ s2.graph.size → s2.graph.Knows (reasons infos) →
      (s2.classAt parent).methods.get? method = some f →
      ∃ s3, s2.Notes s3 ∧ s2.graph.size < s3.graph.size ∧
        ∀ inner : Inner, evalArgs inner why args s1 = .done infos s2 →
          evalExpr inner (.superCall loc method args) why s =
            (inner.call f (⟨stored.value, s.graph.size⟩ :: infos) s2.graph.size >>=
              tellResult (.superCall loc method args) why) s3 := by
  obtain ⟨s1, reads, records1⟩ := lookupVariable_reads self loc known
  have notes1 := records1.toNotes
  let named := s!"parent scope of {(s.classAt owner).name} is {(s.classAt parent).name}"
  let s2 : Session := { s1 with graph := s1.graph.push (.text named) [] none }
  have notes2 : s1.Notes s2 := .leaf trivial
  have fresh2 : Nat.lt s1.graph.size s2.graph.size :=
    Nat.lt_of_lt_of_eq (Nat.lt_succ_self _) (Graph.size_push ..).symm
  let target : Justified := ⟨stored.value, s.graph.size⟩
  have caller : Nat.lt why s.graph.size := known why List.mem_cons_self
  have known2 : s2.graph.Knows [why, target.why, s1.graph.size] := List.forall_mem_cons.2
    ⟨Nat.lt_of_lt_of_le caller (Nat.le_trans notes1.graph notes2.graph),
      List.forall_mem_cons.2 ⟨Nat.lt_of_lt_of_le records1.fresh notes2.graph,
        List.forall_mem_singleton.2 fresh2⟩⟩
  have dispatches : dispatchSuper method why s1 = .done (parent, s1.graph.size) s2 := by
    have runs1 : s1.calls.owner? = some owner := by rw [notes1.same, runs]
    have same := (Adds.of_notes notes1).classAt
    simp only [dispatchSuper, Bind.bind, Action.ask, runs1, same, above]
    rfl
  obtain ⟨s3, records3, begins⟩ :=
    callIn_begins (.superCall loc method args) parent method args f known2
  refine ⟨s3, (notes1.trans notes2).trans records3.toNotes, ?_,
    fun {infos s4} grows given table => ?_⟩
  · exact Nat.lt_of_lt_of_le records1.fresh (Nat.le_trans notes2.graph records3.graph)
  · obtain ⟨s5, records5, calls⟩ := begins grows given table
    refine ⟨s5, records5.toNotes, records5.fresh, fun inner evaluates => ?_⟩
    change (lookupVariable selfName loc why >>= fun target =>
      callOnSuper inner (.superCall loc method args) target method args why) s = _
    rw [Action.bind_done reads, callOnSuper, Action.bind_done dispatches]
    exact calls inner evaluates

/-- A call on an object gets to the method that the class of the object names. -/
lemma methodCall_conveys {now : Session} (loc : Location) (method : String) (args : List Expr)
    (f : FunctionId) (recorded : Nat.lt why s.graph.size)
    (evaluates : Because.eval steps object why s = .done target now)
    (grows : s.graph.size ≤ now.graph.size) (fresh : Nat.lt target.why now.graph.size)
    (ofClass : now.classOf? target.value = some id) :
    ∃ t s1,
      now.Adduces (.text s!"({now.render target.value}) instanceof {(now.classAt id).text}") [] t ∧
      t.Adduces (.equal selfName (t.classAt id).name) [now.graph.size] s1 ∧ ∀ {infos s2},
      evalArgs (.within steps) why args s1 = .done infos s2 → s1.graph.size ≤ s2.graph.size →
      s2.graph.Knows (reasons infos) → (s2.classAt id).methods.get? method = some f →
      ∃ s3, s2.Adduces (.conj s!"Evaluated {(Expr.methodCall loc object method args).text}")
          (why :: target.why :: t.graph.size :: reasons infos) s3 ∧
        s3.Conveys ((Inner.within steps).call f (target :: infos) s2.graph.size s3)
          (Because.eval (steps + 1) (.methodCall loc object method args) why s) := by
  let shown := now.render target.value
  let named := (now.classAt id).text
  let served := s!"({shown}) instanceof {named}"
  let t : Session := { now with graph := now.graph.push (.text served) [] none }
  have records : now.Adduces (.text served) [] t := now.records_text served
  have known : t.graph.Knows [why, target.why, now.graph.size] := List.forall_mem_cons.2
    ⟨Nat.lt_of_lt_of_le recorded (Nat.le_trans grows records.graph), List.forall_mem_cons.2
      ⟨Nat.lt_of_lt_of_le fresh records.graph, List.forall_mem_singleton.2 records.fresh⟩⟩
  have dispatches : dispatchObject target method now = .done (id, now.graph.size) t := by
    simp only [dispatchObject, Bind.bind, Action.render, Action.ask, ofClass]
    rfl
  obtain ⟨s1, records1, conveys⟩ :=
    callIn_conveys (.methodCall loc object method args) id method args f known
  have runs : Because.eval (steps + 1) (.methodCall loc object method args) why s =
      callIn (.within steps) (.methodCall loc object method args) target (id, now.graph.size) method
        args why t := by
    change (Because.eval steps object why >>= fun target =>
      callOnObject (.within steps) (.methodCall loc object method args) target method args why) s = _
    rw [Action.bind_done evaluates, callOnObject, Action.bind_done dispatches]
  rw [runs]
  exact ⟨t, s1, records, records1, conveys⟩

end

/-! ## Calls of built-in methods -/

section

variable {object : Expr} {method : String} {args : List Expr} {params : List String}
  {handle : Handle} {A : List Value → Session → Prop} {now : Session}

/-- A call on an object of a built-in class ends as the method does, be it with an object or with
None, once the arguments have been evaluated. -/
lemma GivenAs.methodCall_concludes (loc : Location) (apt : s.Apt)
    (recorded : Nat.lt why s.graph.size) (room : s.calls.isFull = false)
    {w : ReasonId} (given : s.GivenAs P (Because.eval (steps + 2) object why s) i w now)
    (declared : (method, params) ∈ builtin.methods)
    (state : now.handle? (.object i) = some handle)
    (ofClass : now.classOf? (.object i) = some builtin.classId)
    (counts : args.length = params.length)
    (arguments : ∀ s1, now.Notes s1 → s1.GivesAll A (evalArgs (.within (steps + 2)) why args s1)) :
    ∃ given s2 t history infos, now.Adds s2 ∧ s.Quiet s2 ∧ A (given.map Justified.value) s2 ∧
      s2.Handed given t history infos ∧ ∀ value why' t',
        Native.invoke (.within steps) i handle method history infos t = .done ⟨value, why'⟩ t' →
        t.SameStacks t' → t.graph.size ≤ t'.graph.size → Nat.lt why' t'.graph.size →
        value.isObject = true ∨ value = .none →
        (s.afterCall t').Concludes value
          (Because.eval (steps + 3) (.methodCall loc object method args) why s) := by
  have apt' := given.apt apt
  obtain ⟨f, declares⟩ := (apt'.equipped builtin).declares declared
  obtain ⟨t, s1, records, records1, conveys⟩ := methodCall_conveys loc method args f recorded
    given.done given.adds.graph given.recorded ofClass
  have notes1 : now.Notes s1 := records.toNotes.trans records1.toNotes
  obtain ⟨infos, s2, evaluates, adds2, quiet2, known2, holds⟩ := arguments s1 notes1
  have older := (Adds.of_notes notes1).trans adds2
  have quiet := (given.quiet.trans (.of_notes notes1)).trans quiet2
  have table : (s2.classAt builtin.classId).methods.get? method = some f := by
    rw [older.classAt, declares.table]
  obtain ⟨s3, records3, conveys⟩ := conveys evaluates adds2.graph known2 table
  have notes3 : s2.Notes s3 := records3.toNotes
  have adds3 := older.trans (.of_notes notes3)
  have quiet3 := quiet.trans (.of_notes notes3)
  have is : s3.functionAt f = Builtin.function builtin.classId method params := by
    rw [adds3.functionAt, declares.function]
  have room3 : s3.calls.isFull = false := by rw [quiet3.calls, room]
  let target : Justified := ⟨.object i, w⟩
  have state3 : s3.handle? target.value = some handle := adds3.handle? state
  have known3 : s3.graph.Knows (s2.graph.size :: reasons (target :: infos)) :=
    List.forall_mem_cons.2 ⟨records3.fresh, List.forall_mem_cons.2
      ⟨Nat.lt_of_lt_of_le given.recorded adds3.graph, notes3.knows known2⟩⟩
  have counts3 : infos.length = params.length := (evalArgs_length evaluates).trans counts
  -- The receiver and the arguments have been evaluated in `s3`, where the call begins.
  obtain ⟨j, t, history, infos', same, handed, concludes⟩ :=
    (adds3.works apt'.toWorks).call_concludes declared is state3 counts3 room3 known3
  obtain rfl : i = j := Value.object.inj same
  refine ⟨infos, s2, t, history, infos', older, quiet, holds, handed.after notes3,
    fun value why' t' done balanced grows fresh plain => ?_⟩
  obtain ⟨why'', s4, calls, notes4, fresh4⟩ := concludes steps value why' t' done balanced grows
    fresh plain
  have grows4 : s3.graph.size ≤ s4.graph.size :=
    Nat.le_trans handed.adds.graph (Nat.le_trans grows notes4.graph)
  obtain ⟨w', s5, ends, tells5, fresh5⟩ := conveys.gives calls grows4 fresh4
  -- After the call the stacks are those of `s` again, as only reasons and objects had been made.
  have left : s3.afterCall t' = s.afterCall t' := by
    rw [afterCall, afterCall, quiet3.entered, quiet3.calls]
  rw [left] at notes4
  exact ⟨w', s5, ends, notes4.trans tells5.toNotes, fresh5⟩

/-- A call on an object of a built-in class gives the object that the method gives. -/
lemma GivenAs.methodCall_gives (loc : Location) (apt : s.Apt)
    (recorded : Nat.lt why s.graph.size) (room : s.calls.isFull = false)
    {w : ReasonId} (given : s.GivenAs P (Because.eval (steps + 2) object why s) i w now)
    (declared : (method, params) ∈ builtin.methods)
    (state : now.handle? (.object i) = some handle)
    (ofClass : now.classOf? (.object i) = some builtin.classId)
    (counts : args.length = params.length)
    (arguments : ∀ s1, now.Notes s1 → s1.GivesAll A (evalArgs (.within (steps + 2)) why args s1))
    (stays : Stays Q)
    (serves : ∀ {given s2 t history infos}, now.Adds s2 → s.Quiet s2 →
      A (given.map Justified.value) s2 → s2.Handed given t history infos →
      t.Gives Q (Native.invoke (.within steps) i handle method history infos t)) :
    s.Gives Q (Because.eval (steps + 3) (.methodCall loc object method args) why s) := by
  obtain ⟨infos, s2, t, history, infos', adds2, quiet2, holds, handed, concludes⟩ :=
    given.methodCall_concludes loc apt recorded room declared state ofClass counts arguments
  obtain ⟨j, w', t', gives⟩ := serves adds2 quiet2 holds handed
  obtain ⟨w'', s', done, notes, fresh⟩ := concludes _ w' t' gives.done gives.quiet.toSameStacks
    gives.adds.graph gives.recorded (.inl rfl)
  have left : t'.Adds (s.afterCall t') := { Adds.refl t' with }
  have later := left.trans (.of_notes notes)
  have quiet : s.Quiet (s.afterCall t') :=
    ⟨⟨rfl, rfl⟩, gives.quiet.console.trans (handed.console.trans quiet2.console)⟩
  exact ⟨j, w'', s', done,
    (((given.adds.trans adds2).trans handed.adds).trans gives.adds).trans later,
    quiet.trans (.of_notes notes), fresh, stays.adds later gives.holds⟩

end

end Session

end Because
