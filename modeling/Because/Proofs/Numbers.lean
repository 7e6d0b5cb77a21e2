import Because.Proofs.Evaluation
import Because.Proofs.Text.Numerals

/-!
# Numbers and their numerals

A number is read from a text if the text is a numeral for an integer of 64 bits, with any blanks
around it; from every other text, and from whatever is no text, there comes a number without a
payload. What such an integer is shown as is read as the same integer again.
-/

namespace Because

namespace Session

variable {s now later : Session} {steps : Nat} {expr : Expr} {why : ReasonId} {input : Justified}
  {number : Option Int} {n : Int}

/-- The outcome is a Num object that has this number, or none, as its payload. -/
def GivesNumber (number : Option Int) (o : Outcome Failure Justified) : Prop :=
  ∃ result later, o = .done result later ∧
    later.classOf? result.value = some Builtin.num.classId ∧
    later.number? result.value = some number

/-- Numbers are read from values, and from what numbers are shown as. -/
structure ReadsNumbers (now : Session) : Prop where
  /-- Once an operand has been evaluated, a Num is made of its value. It has a payload if the value
  is a String object whose text spells a number. -/
  reads {steps : Nat} {expr : Expr} {why : ReasonId} {input : Justified} {later : Session}
    (loc : Location) : Nat.lt why now.graph.size →
    Because.eval steps expr why now = .done input later → later.Names .num →
    ∃ number, GivesNumber number (Because.eval (steps + 1) (.int loc expr) why now) ∧
      ∀ n, number = some n ↔
        ∃ content, later.content? input.value = some content ∧ Text.Spells content n
  /-- An integer is read from what the Num that has it is shown as. -/
  inverts {steps : Nat} {why : ReasonId} {n : Int} (loc loc' loc'' : Location) :
    Nat.lt why now.graph.size → now.Names .num → now.Names .string → now.calls.isFull = false →
    Text.isInt64 n = true →
    GivesNumber (some n)
      (Because.eval (steps + 4)
        (.int loc (.methodCall loc' (.num loc'' n) "toString" [])) why now)

/-- The number that is read from a value is the one that its text spells, if it has one. -/
lemma read_iff (value : Value) :
    ((s.textOf? value).bind fun content => parseNumber? content.1) = some n ↔
      ∃ content, s.content? value = some content ∧ Text.Spells content n := by
  simp only [Option.bind_eq_some_iff, content?, Option.map_eq_some_iff, parseNumber?,
    Text.readInt64?_trim]
  constructor
  · rintro ⟨text, found, spells⟩
    exact ⟨text.1, ⟨text, found, rfl⟩, spells⟩
  · rintro ⟨_, ⟨text, found, rfl⟩, spells⟩
    exact ⟨text, found, spells⟩

/-- A Num is made of the value of the operand. -/
lemma Works.evalInt_gives (works : later.Works) (names : later.Names .num)
    (done : (Inner.within steps).eval expr why now = .done input later)
    (recorded : Nat.lt why later.graph.size) :
    later.Gives
      (Is (Handle.number ((later.textOf? input.value).bind fun content => parseNumber? content.1)))
      (Because.evalInt (.within steps) expr why now) := by
  let number := (later.textOf? input.value).bind fun content => parseNumber? content.1
  let told : Session := { later with graph := later.graph.push .unknown [] none }
  have notes : later.Notes told := .leaf trivial
  have fresh : Nat.lt later.graph.size told.graph.size :=
    Nat.lt_of_lt_of_eq (Nat.lt_succ_self _) (Graph.size_push ..).symm
  have known : told.graph.Knows (why :: reasons [⟨Native.payload number, later.graph.size⟩]) :=
    List.forall_mem_cons.2
      ⟨Nat.lt_of_lt_of_le recorded notes.graph, List.forall_mem_singleton.2 fresh⟩
  have makes : Native.construct .num [⟨Native.payload number, later.graph.size⟩] =
      Action.ofExcept (.ok (.number number later.graph.size)) := by
    cases number <;> rfl
  have adds := Adds.of_notes notes
  obtain ⟨i, made, s', given⟩ := (adds.works works).newObject_gives (adds.names works names) makes
    rfl known (.within steps)
  refine ⟨i, made, s', ?_, adds.trans given.adds, (Quiet.of_notes notes).trans given.quiet,
    given.recorded, later.graph.size, given.holds.2.1,
    Nat.lt_of_lt_of_le fresh given.adds.graph, given.holds.2.2⟩
  have asks : Action.ask (ε := Failure) (·.textOf? input.value) later =
      .done (later.textOf? input.value) later := rfl
  have tells : (Action.unknown : Eval ReasonId) later = .done later.graph.size told := rfl
  rw [Because.evalInt, Action.bind_done done, Action.bind_done asks, Action.bind_done tells]
  exact given.done

/-- What a Num is shown as is the numeral for its number. -/
lemma Apt.numeral_evaluates (apt : s.Apt) (nums : s.Names .num) (strings : s.Names .string)
    (room : s.calls.isFull = false) (steps : Nat) (loc loc' : Location) (n : Int) :
    s.Evaluates (steps + 3) (.methodCall loc (.num loc' n) "toString" [])
      (Is (Handle.text (toString n))) := by
  intro why recorded
  obtain ⟨i, w, now, given⟩ := apt.num_evaluates nums steps loc' n why recorded
  obtain ⟨numberWhy, state, known, ofClass⟩ := given.holds
  have declared : ("toString", []) ∈ Builtin.num.methods := by decide
  refine given.methodCall_gives loc apt recorded room declared state ofClass rfl
    (fun s1 _ => givesAll_nil s1 _ why) (stays_is _) ?_
  intro infos s2 t history infos' adds2 _ none handed
  obtain rfl := List.map_eq_nil_iff.1 (handed.values.trans none)
  have adds := adds2.trans handed.adds
  have later := given.adds.trans adds
  have supported : t.graph.Knows (history :: reasons [⟨.str (toString n), numberWhy⟩]) :=
    List.forall_mem_cons.2 ⟨handed.known _ List.mem_cons_self, List.forall_mem_singleton.2
      (Nat.lt_of_lt_of_le known adds.graph)⟩
  have makes : Native.construct .string [⟨.str (toString n), numberWhy⟩] =
      Action.ofExcept (.ok (.text (toString n) numberWhy)) := rfl
  obtain ⟨j, made, t', gives⟩ := (later.works apt.toWorks).newHiddenObject_gives
    (later.names apt.toWorks strings) makes rfl supported (.within steps)
  refine ⟨j, made, t', { gives with
    done := (Action.lift_done gives.done : _)
    holds := ⟨numberWhy, gives.holds.2.1, ?_, gives.holds.2.2⟩ }⟩
  exact Nat.lt_of_lt_of_le known (adds.trans gives.adds).graph

/-- In a healthy session, numbers are read from what they are shown as, and from nothing else. -/
lemma Healthy.reads_numbers (h : now.Healthy) : now.ReadsNumbers := by
  have reads {steps : Nat} {expr : Expr} {why : ReasonId} {input : Justified} {later : Session}
      (loc : Location) (recorded : Nat.lt why now.graph.size)
      (done : Because.eval steps expr why now = .done input later) (names : later.Names .num) :
      ∃ number, GivesNumber number (Because.eval (steps + 1) (.int loc expr) why now) ∧
        ∀ n, number = some n ↔
          ∃ content, later.content? input.value = some content ∧ Text.Spells content n := by
    have done : (Inner.within steps).eval expr why now = .done input later := done
    obtain ⟨healthy, -, -, known⟩ := h.evalArgs recorded (evalArgs_one done)
    obtain ⟨i, w, s', given⟩ :=
      healthy.works.evalInt_gives names done (known _ List.mem_cons_self)
    refine ⟨_, ⟨⟨.object i, w⟩, s', given.done, ?_, given.holds.number⟩, fun n => read_iff _⟩
    obtain ⟨numberWhy, -, -, ofClass⟩ := given.holds
    exact ofClass
  refine ⟨reads, fun {steps why n} loc loc' loc'' recorded nums strings room fits => ?_⟩
  obtain ⟨i, w, later, given⟩ :=
    h.apt.numeral_evaluates nums strings room steps loc' loc'' n why recorded
  obtain ⟨number, gives, spells⟩ :=
    reads loc recorded given.done (given.adds.names h.works nums)
  obtain rfl : number = some n :=
    (spells n).2 ⟨toString n, given.holds.content, Text.spells_toString fits⟩
  exact gives

/-- In sessions that can come about, numbers are read from what they are shown as, and from no other
texts, at every moment of every run. -/
theorem Reachable.reads_numerals (h : s.Reachable) : s.ReadsNumbers ∧
    ∀ steps program, s.Throughout steps program fun _ now => now.ReadsNumbers := by
  refine ⟨h.healthy.reads_numbers, fun steps program => ?_⟩
  exact (h.healthy_throughout steps program).mono fun _ _ healthy => healthy.1.reads_numbers

/-- In a new session, the least integer of 64 bits is read from its numeral, and another number from
a text with a sign, zeros and blanks; two signs spell nothing. -/
theorem Reachable.reads_numerals_of_texts : (Session.start {} {}).Reachable ∧
    GivesNumber (some (-9223372036854775808))
      (Because.eval 5 (.int .builtin (.methodCall .builtin
        (.num .builtin (-9223372036854775808)) "toString" [])) 0 (Session.start {} {})) ∧
    GivesNumber (some 42)
      (Because.eval 4 (.int .builtin (.string .builtin " +0042\t")) 0 (Session.start {} {})) ∧
    GivesNumber none
      (Because.eval 4 (.int .builtin (.string .builtin "+-7")) 0 (Session.start {} {})) := by
  have reachable := Reachable.start {} {}
  have fresh : (Session.start {} {}).Names .num ∧ (Session.start {} {}).Names .string ∧
      (Session.start {} {}).calls.isFull = false ∧ 0 < (Session.start {} {}).graph.size := by
    decide +kernel
  obtain ⟨nums, strings, room, recorded⟩ := fresh
  have reads := reachable.reads_numerals.1
  have texts : ∀ text ∈ [" +0042\t", "+-7"],
      ((Because.eval 3 (.string .builtin text) 0 (Session.start {} {})).result?.any fun given =>
        decide (given.2.Names .num ∧ given.2.content? given.1.value = some text)) = true := by
    decide +kernel
  obtain ⟨first, others⟩ := List.forall_mem_cons.1 texts
  obtain ⟨⟨input, later⟩, evaluated, facts⟩ := (Option.any_eq_true ..).1 first
  obtain ⟨names, holds⟩ := of_decide_eq_true facts
  obtain ⟨⟨input', later'⟩, evaluated', facts'⟩ :=
    (Option.any_eq_true ..).1 (others _ List.mem_cons_self)
  obtain ⟨names', holds'⟩ := of_decide_eq_true facts'
  obtain ⟨number, gives, spells⟩ :=
    reads.reads .builtin recorded (Outcome.eq_done evaluated) names
  obtain ⟨number', gives', spells'⟩ :=
    reads.reads .builtin recorded (Outcome.eq_done evaluated') names'
  obtain rfl : number = some 42 :=
    (spells 42).2 ⟨_, holds, Text.readInt64?_trim.1 (by decide +kernel)⟩
  obtain rfl : number' = none := by
    cases number' with
    | none => rfl
    | some n =>
      obtain ⟨content, same, spelled⟩ := (spells' n).1 rfl
      cases holds'.symm.trans same
      have none : Text.readInt64? (Text.trim "+-7") = none := by decide +kernel
      cases none.symm.trans (Text.readInt64?_trim.2 spelled)
  exact ⟨reachable, reads.inverts .builtin .builtin .builtin recorded nums strings room (by decide),
    gives, gives'⟩

end Session

end Because
