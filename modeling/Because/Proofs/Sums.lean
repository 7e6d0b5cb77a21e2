import Because.Proofs.Filling
import Because.Proofs.Operands
import Mathlib.Algebra.Ring.Int.Defs

/-!
# Sums are exact

A sum joins its operands from the left, by the `plus` methods of built-in classes. The number that
comes of it is the sum of all numbers, unless one of them is missing; that of two numbers has to be
one of 64 bits, and so has every sum of the first operands up to the first missing number. Texts are
put one after the other. Nothing becomes of the operands.
-/

namespace Because

/-! ## Numbers -/

/-- The sum of numbers; there is none if one of them is missing. -/
def total? (numbers : List (Option Int)) : Option Int := (numbers.mapM id).map List.sum

/-- The sum of some numbers, which come first and are not missing, needs more than 64 bits. -/
def Overflows (numbers : List (Option Int)) : Prop :=
  ∃ first : List Int, first.map some <+: numbers ∧ Text.isInt64 first.sum = false

section

variable {a b : Int} {number : Option Int} {numbers : List (Option Int)}

/-- The sum of numbers is that of the first one and of the others. -/
lemma total?_some (a : Int) (numbers : List (Option Int)) :
    total? (some a :: numbers) = (total? numbers).map (a + ·) := by
  unfold total?
  rw [List.mapM_cons]
  cases numbers.mapM id with
  | none => rfl
  | some rest => exact congrArg some (List.sum_cons ..)

/-- Sums of several numbers begin with the first one. -/
lemma overflows_some : Overflows (some a :: numbers) ↔
    ∃ first : List Int, first.map some <+: numbers ∧ Text.isInt64 (a + first.sum) = false := by
  constructor
  · rintro ⟨_ | ⟨b, first⟩, begins, overflows⟩
    · cases overflows
    · obtain ⟨same, others⟩ := List.cons_prefix_cons.1 begins
      cases same
      exact ⟨first, others, overflows⟩
  · rintro ⟨first, begins, overflows⟩
    exact ⟨a :: first, List.cons_prefix_cons.2 ⟨rfl, begins⟩, overflows⟩

/-- Without a number, no sum is too large. -/
lemma not_overflows_none : ¬ Overflows (none :: numbers) := by
  rintro ⟨_ | ⟨a, first⟩, begins, overflows⟩
  · cases overflows
  · cases (List.cons_prefix_cons.1 begins).1

/-- A number that fits is no sum that is too large. -/
lemma not_overflows_one (fits : Text.isInt64 a = true) : ¬ Overflows [some a] := by
  rw [overflows_some]
  rintro ⟨first, begins, overflows⟩
  obtain rfl := List.map_eq_nil_iff.1 (List.prefix_nil.1 begins)
  rw [List.sum_nil, Int.add_zero, fits] at overflows
  cases overflows

/-- Once a number is missing, no sum is too large. -/
lemma not_overflows_missing (fits : Text.isInt64 a = true) :
    ¬ Overflows (some a :: none :: numbers) := by
  rw [overflows_some]
  rintro ⟨_ | ⟨b, first⟩, begins, overflows⟩
  · rw [List.sum_nil, Int.add_zero, fits] at overflows
    cases overflows
  · cases (List.cons_prefix_cons.1 begins).1

/-- Sums of the first numbers are too large if the first two are, or if those after joining them
are. -/
lemma overflows_join (fits : Text.isInt64 a = true) :
    Overflows (some a :: some b :: numbers) ↔
      Text.isInt64 (a + b) = false ∨ Overflows (some (a + b) :: numbers) := by
  rw [overflows_some]
  constructor
  · rintro ⟨_ | ⟨c, first⟩, begins, overflows⟩
    · rw [List.sum_nil, Int.add_zero, fits] at overflows
      cases overflows
    · obtain ⟨same, others⟩ := List.cons_prefix_cons.1 begins
      cases same
      rw [List.sum_cons, ← Int.add_assoc] at overflows
      refine .inr ⟨(a + b) :: first, List.cons_prefix_cons.2 ⟨rfl, others⟩, ?_⟩
      rw [List.sum_cons, overflows]
  · rintro (overflows | ⟨_ | ⟨c, first⟩, begins, overflows⟩)
    · refine ⟨[b], List.cons_prefix_cons.2 ⟨rfl, List.nil_prefix⟩, ?_⟩
      rw [List.sum_singleton, overflows]
    · cases overflows
    · obtain ⟨same, others⟩ := List.cons_prefix_cons.1 begins
      cases same
      refine ⟨b :: first, List.cons_prefix_cons.2 ⟨rfl, others⟩, ?_⟩
      rw [List.sum_cons, ← Int.add_assoc, ← overflows, List.sum_cons]

/-- The first two numbers may be joined before the others are added. -/
lemma total?_join (a b : Int) (numbers : List (Option Int)) :
    total? (some a :: some b :: numbers) = total? (some (a + b) :: numbers) := by
  simp only [total?_some, Option.map_map]
  refine congrArg (Option.map · _) (funext fun c => ?_)
  exact (Int.add_assoc a b c).symm

/-- What comes of joining numbers from the left. -/
lemma foldlM_sum (fits : ∀ a, some a ∈ number :: numbers → Text.isInt64 a = true) :
    (¬ Overflows (number :: numbers) →
      numbers.foldlM Native.sum? number = .ok (total? (number :: numbers))) ∧
    (Overflows (number :: numbers) →
      numbers.foldlM Native.sum? number = .error (.overflow "plus")) := by
  induction numbers generalizing number with
  | nil =>
    cases number with
    | none => exact ⟨fun _ => rfl, fun overflows => absurd overflows not_overflows_none⟩
    | some a =>
      refine ⟨fun _ => congrArg (Except.ok ∘ some) (Int.add_zero a).symm, fun overflows => ?_⟩
      exact absurd overflows (not_overflows_one (fits a List.mem_cons_self))
  | cons next rest ih =>
    have others (a : Int) (mem : some a ∈ rest) : Text.isInt64 a = true :=
      fits a (List.mem_cons_of_mem _ (List.mem_cons_of_mem _ mem))
    -- From the first operand without a number on, the sum has none, whatever comes after: no later
    -- prefix can overflow.
    have missing : rest.foldlM Native.sum? none = .ok none :=
      (@ih none fun a mem => others a ((List.mem_cons.1 mem).resolve_left (by rintro ⟨⟩))).1
        not_overflows_none
    cases number with
    | none => exact ⟨fun _ => missing, fun overflows => absurd overflows not_overflows_none⟩
    | some a =>
      have fitsFirst := fits a List.mem_cons_self
      cases next with
      | none =>
        exact ⟨fun _ => missing,
          fun overflows => absurd overflows (not_overflows_missing fitsFirst)⟩
      | some b =>
        rw [overflows_join fitsFirst, total?_join]
        cases sum : Text.isInt64 (a + b) with
        | true =>
          have step : Native.sum? (some a) (some b) = .ok (some (a + b)) := by
            simp only [Native.sum?, sum, if_true]
          have joined := @ih (some (a + b)) fun c mem => by
            obtain same | mem := List.mem_cons.1 mem
            · cases same
              exact sum
            · exact others c mem
          rw [List.foldlM_cons, step]
          refine ⟨fun fine => joined.1 fun overflows => fine (.inr overflows), fun overflows => ?_⟩
          exact joined.2 (overflows.resolve_left (by rintro ⟨⟩))
        | false =>
          have step : Native.sum? (some a) (some b) = .error (.overflow "plus") := by
            simp only [Native.sum?, sum, Bool.false_eq_true, if_false]
          rw [List.foldlM_cons, step]
          exact ⟨fun fine => absurd (.inl rfl) fine, fun _ => rfl⟩

end

/-! ## Joining operands -/

namespace Session

variable {α : Type} {s : Session} {builtin : Builtin} {state : α → ReasonId → Handle}
  {why : ReasonId} {steps : Nat}

/-- The `plus` method of a built-in class joins states of its objects, or refuses to. -/
structure Joins (builtin : Builtin) (state : α → ReasonId → Handle)
    (join : α → α → Except NativeFault α) : Prop where
  declared : ("plus", ["other"]) ∈ builtin.methods
  ofClass : ∀ x why, (state x why).builtin = builtin
  states {handle c} : handle.builtin = builtin → handle.In c →
    ∃ x why, handle = state x why ∧ c.reason why
  gives {x y z now i history stateWhy info} (inner : Inner) : join x y = .ok z → now.Works →
    now.Names builtin → now.graph.Knows [history, stateWhy, info.why] →
    Is (state y) info.value now →
    now.Gives (Is (state z)) (Native.invoke inner i (state x stateWhy) "plus" history [info] now)
  fails {x y fault now i history stateWhy info} (inner : Inner) : join x y = .error fault →
    Is (state y) info.value now →
    Native.invoke inner i (state x stateWhy) "plus" history [info] now = .failed fault now

/-- Calls of `plus` join the states of two objects, or fail as these do. -/
lemma Works.joins_two {join : α → α → Except NativeFault α} (joins : Joins builtin state join)
    (steps : Nat) (works : s.Works) (names : s.Names builtin) (room : s.calls.isFull = false)
    {sum info : Justified} {x y : α} (isFirst : Is (state x) sum.value s)
    (isNext : Is (state y) info.value s) (known : s.graph.Knows (why :: reasons [info])) :
    (∀ z, join x y = .ok z → s.Gives (Is (state z))
      (Because.callMethod (.within (steps + 2)) sum "plus" [info] why s)) ∧
    ∀ fault, join x y = .error fault → ∃ failure s',
      Because.callMethod (.within (steps + 2)) sum "plus" [info] why s = .failed failure s' ∧
        failure.fault = (fault.toFailure builtin.name "plus").fault := by
  obtain ⟨stateWhy, found, recorded, isBuiltin⟩ := isFirst
  have ofClass := joins.ofClass x stateWhy
  rw [ofClass] at isBuiltin
  constructor
  · intro z joined
    refine works.callMethod_gives joins.declared isBuiltin found rfl room known (stays_is _) ?_
    intro i now history infos _ handed
    obtain ⟨given, rfl, known⟩ := handed.one
    obtain ⟨recordedHistory, recordedGiven⟩ := List.forall_mem_cons.1 known
    have supported : now.graph.Knows [history, stateWhy, given] :=
      List.forall_mem_cons.2 ⟨recordedHistory, List.forall_mem_cons.2
        ⟨Nat.lt_of_lt_of_le recorded handed.adds.graph, recordedGiven⟩⟩
    exact joins.gives _ joined (handed.adds.works works) (handed.adds.names works names) supported
      ((stays_is _).adds handed.adds isNext)
  · intro fault joined
    rw [← ofClass]
    refine works.callMethod_fails joins.declared isBuiltin found rfl room known ?_
    intro i now history infos _ handed
    obtain ⟨given, rfl, -⟩ := handed.one
    exact ⟨now, joins.fails _ joined ((stays_is _).adds handed.adds isNext), .refl now⟩

/-- Joined operands are the operands' states joined from the left, or fail as these do. -/
lemma Works.joinOperands_folds {join : α → α → Except NativeFault α}
    (joins : Joins builtin state join) (steps : Nat) (works : s.Works) (names : s.Names builtin)
    (room : s.calls.isFull = false) {sum : Justified} {first : α} {infos : List Justified}
    {others : List α} (isFirst : Is (state first) sum.value s)
    (areOthers : List.Forall₂ (fun info x => Is (state x) info.value s) infos others)
    (known : s.graph.Knows (why :: sum.why :: reasons infos)) :
    (∀ total, others.foldlM join first = .ok total →
      s.Gives (Is (state total)) (joinOperands (.within (steps + 2)) why sum infos s)) ∧
    ∀ fault, others.foldlM join first = .error fault →
      ∃ failure s', joinOperands (.within (steps + 2)) why sum infos s = .failed failure s' ∧
        failure.fault = (fault.toFailure builtin.name "plus").fault := by
  induction infos generalizing s sum first others with
  | nil =>
    cases areOthers
    obtain ⟨caller, joined⟩ := List.forall_mem_cons.1 known
    refine ⟨?_, by rintro fault ⟨⟩⟩
    rintro total ⟨⟩
    obtain ⟨object, same⟩ := isFirst.object
    obtain ⟨value, sumWhy⟩ := sum
    cases same
    exact ⟨object, sumWhy, s, rfl, .refl s, .refl s, joined _ List.mem_cons_self, isFirst⟩
  | cons info rest ih =>
    obtain _ | ⟨isNext, areOthers⟩ := areOthers
    rename_i next others
    obtain ⟨caller, joined⟩ := List.forall_mem_cons.1 known
    obtain ⟨-, operands⟩ := List.forall_mem_cons.1 joined
    obtain ⟨operand, remaining⟩ := List.forall_mem_cons.1 operands
    obtain ⟨joinsTo, refuses⟩ := works.joins_two joins steps names room isFirst isNext
      (List.forall_mem_cons.2 ⟨caller, List.forall_mem_singleton.2 operand⟩)
    rw [List.foldlM_cons]
    -- The first two operands are joined, and what comes of it takes the place of the first; so the
    -- states are generalized in the induction.
    cases step : join first next with
    | error fault =>
      refine ⟨by rintro total ⟨⟩, ?_⟩
      rintro fault ⟨⟩
      obtain ⟨failure, s', failed, same⟩ := refuses _ step
      refine ⟨failure, s', ?_, same⟩
      rw [joinOperands, Action.bind_failed failed]
    | ok both =>
      obtain ⟨object, sumWhy, s1, gives⟩ := joinsTo _ step
      let sum' : Justified := ⟨.object object, sumWhy⟩
      have runs : joinOperands (.within (steps + 2)) why sum (info :: rest) s =
          joinOperands (.within (steps + 2)) why sum' rest s1 := by
        rw [joinOperands, Action.bind_done gives.done]
        rfl
      have known1 : s1.graph.Knows (why :: sum'.why :: reasons rest) :=
        List.forall_mem_cons.2 ⟨Nat.lt_of_lt_of_le caller gives.adds.graph,
          List.forall_mem_cons.2 ⟨gives.recorded, gives.adds.knows remaining⟩⟩
      have isBoth : Is (state both) sum'.value s1 := gives.holds
      have rests := ih (gives.adds.works works) (gives.adds.names works names)
        (gives.quiet.calls ▸ room) isBoth
        (areOthers.imp fun info x is => (stays_is _).adds gives.adds is) known1
      rw [runs]
      exact ⟨fun total folds => (rests.1 total folds).after gives.adds gives.quiet, rests.2⟩

/-- Numbers are joined by their sum. -/
lemma joins_numbers : Joins .num Handle.number Native.sum? where
  declared := by decide
  ofClass _ _ := rfl
  states {handle c} ofClass known := by
    cases handle with
    | number value why => exact ⟨value, why, rfl, known⟩
    | _ => cases ofClass
  gives {x y z now i history stateWhy info} inner sum works names known isOther := by
    obtain ⟨otherWhy, found, recorded, -⟩ := isOther
    obtain ⟨recordedHistory, others⟩ := List.forall_mem_cons.1 known
    obtain ⟨recordedState, -⟩ := List.forall_mem_cons.1 others
    have sums : Action.ofExcept (Native.sum? x y) now = .done z now := by
      rw [sum]
      rfl
    have supported : now.graph.Knows [history, stateWhy, otherWhy] :=
      List.forall_mem_cons.2 ⟨recordedHistory, List.forall_mem_cons.2
        ⟨recordedState, List.forall_mem_singleton.2 recorded⟩⟩
    have runs : Native.invoke inner i (.number x stateWhy) "plus" history [info] now =
        Native.addNumbers inner x stateWhy history info now := rfl
    rw [runs, Native.addNumbers, Action.bind_done (expectNumber_is found _)]
    dsimp only
    rw [Action.bind_done sums]
    exact works.made_gives names (Native.payload z) (.number z) (fun _ => by cases z <;> rfl)
      (fun _ => rfl) supported recordedHistory _ inner
  fails {x y fault now i history stateWhy info} inner sum isOther := by
    obtain ⟨otherWhy, found, -⟩ := isOther
    have sums : Action.ofExcept (Native.sum? x y) now = .failed fault now := by
      rw [sum]
      rfl
    have runs : Native.invoke inner i (.number x stateWhy) "plus" history [info] now =
        Native.addNumbers inner x stateWhy history info now := rfl
    rw [runs, Native.addNumbers, Action.bind_done (expectNumber_is found _)]
    dsimp only
    rw [Action.bind_failed sums]

/-- Texts are put one after the other. -/
lemma joins_texts : Joins .string Handle.text fun first other => .ok (first ++ other) where
  declared := by decide
  ofClass _ _ := rfl
  states {handle c} ofClass known := by
    cases handle with
    | text content why => exact ⟨content, why, rfl, known⟩
    | _ => cases ofClass
  gives {x y z now i history stateWhy info} inner joined works names known isOther := by
    cases joined
    obtain ⟨otherWhy, found, recorded, -⟩ := isOther
    obtain ⟨recordedHistory, others⟩ := List.forall_mem_cons.1 known
    obtain ⟨recordedState, -⟩ := List.forall_mem_cons.1 others
    have supported : now.graph.Knows [history, stateWhy, otherWhy] :=
      List.forall_mem_cons.2 ⟨recordedHistory, List.forall_mem_cons.2
        ⟨recordedState, List.forall_mem_singleton.2 recorded⟩⟩
    have runs : Native.invoke inner i (.text x stateWhy) "plus" history [info] now =
        Native.joinTexts inner x stateWhy history info now := rfl
    rw [runs, Native.joinTexts, Action.bind_done (expectText_is found _)]
    exact works.made_gives names (.str (x ++ y)) (.text (x ++ y)) (fun _ => rfl) (fun _ => rfl)
      supported recordedHistory _ inner
  fails _ joined := by cases joined

/-! ## Sums of operands -/

/-- What comes of a sum is an object of a built-in class, because of all operands in their order;
besides it only reasons and other objects have been made. -/
def Sums (s : Session) (builtin : Builtin) (why : ReasonId) (infos : List Justified)
    (holds : Value → Session → Prop) (o : Outcome Failure Justified) : Prop :=
  ∃ result s', o = .done result s' ∧ s.Adds s' ∧
    s'.classOf? result.value = some builtin.classId ∧ holds result.value s' ∧
    s'.graph.RestsDirectly result.why (why :: reasons infos)

variable {now later : Session} {expr : Expr} {operands : List Expr} {infos : List Justified}

/-- Objects are all that operands may be. -/
lemma expectOperands_done {states : List α} (expr : Expr)
    (are : List.Forall₂ (fun info x => Is (state x) info.value s) infos states) :
    expectOperands expr infos s = .done () s := by
  induction are with
  | nil => rfl
  | @cons info x rest _ is _ ih =>
    obtain ⟨i, same⟩ := is.object
    rw [expectOperands, same]
    exact ih

/-- A sum holds because of its operands, once these have been joined. -/
lemma evalPlus_records {given sum : Justified} {rest : List Justified} {s1 : Session}
    {inner : Inner} (done : evalArgs inner why operands now = .done (given :: rest) later)
    (objects : expectOperands expr (given :: rest) later = .done () later)
    (joined : joinOperands inner why given rest later = .done sum s1)
    (known : s1.graph.Knows (why :: reasons (given :: rest))) :
    ∃ s2, s1.Adduces (.full expr.text (s1.render sum.value) why (reasons (given :: rest)))
        (why :: reasons (given :: rest)) s2 ∧
      evalPlus inner expr operands why now = .done ⟨sum.value, s1.graph.size⟩ s2 := by
  obtain ⟨s2, told, records⟩ := @record_records s1
    (.full expr.text (s1.render sum.value) why (reasons (given :: rest))) _ known rfl
    (some expr.loc)
  have told : Action.full expr.text (s1.render sum.value) expr.loc why (reasons (given :: rest)) s1 =
      .done s1.graph.size s2 := told
  refine ⟨s2, records, ?_⟩
  rw [evalPlus, Action.bind_done done, Action.bind_done objects]
  dsimp only
  rw [Action.bind_done joined]
  simp only [Bind.bind, Action.render, Action.ask, told]
  rfl

/-- The sum of objects of a built-in class, if their states can be joined from the left. -/
lemma Works.evalPlus_gives {join : α → α → Except NativeFault α}
    (joins : Joins builtin state join) (works : later.Works) (names : later.Names builtin)
    (room : later.calls.isFull = false) {first total : α} {others : List α}
    (done : evalArgs (.within (steps + 2)) why operands now = .done infos later)
    (are : List.Forall₂ (fun info x => Is (state x) info.value later) infos (first :: others))
    (known : later.graph.Knows (why :: reasons infos))
    (folded : others.foldlM join first = .ok total) :
    ∃ object sumWhy s', later.GivenAs (Is (state total))
        (evalPlus (.within (steps + 2)) expr operands why now) object sumWhy s' ∧
      s'.graph.RestsDirectly sumWhy (why :: reasons infos) := by
  have objects := expectOperands_done expr are
  obtain ⟨given, rest, isFirst, areOthers, rfl⟩ := List.forall₂_cons_right_iff.1 are
  obtain ⟨object, sumWhy, s1, gives⟩ :=
    (works.joinOperands_folds joins steps names room isFirst areOthers known).1 total folded
  obtain ⟨s2, records, runs⟩ :=
    evalPlus_records done objects gives.done (gives.adds.knows known)
  have adds := Adds.of_notes records.toNotes
  obtain ⟨location, found⟩ := records.node
  exact ⟨object, s1.graph.size, s2, ⟨runs, gives.adds.trans adds,
    gives.quiet.trans (.of_notes records.toNotes), records.fresh,
    (stays_is _).adds adds gives.holds⟩, _, found, rfl⟩

/-- The sum of objects of a built-in class is what comes of joining their states from the left. -/
lemma Works.evalPlus_folds {join : α → α → Except NativeFault α}
    (joins : Joins builtin state join) (works : later.Works) (names : later.Names builtin)
    (room : later.calls.isFull = false) {first : α} {others : List α}
    (done : evalArgs (.within (steps + 2)) why operands now = .done infos later)
    (are : List.Forall₂ (fun info x => Is (state x) info.value later) infos (first :: others))
    (known : later.graph.Knows (why :: reasons infos)) :
    (∀ total, others.foldlM join first = .ok total →
      later.Sums builtin why infos (Is (state total))
        (evalPlus (.within (steps + 2)) expr operands why now)) ∧
    ∀ fault, others.foldlM join first = .error fault →
      ∃ failure s', evalPlus (.within (steps + 2)) expr operands why now = .failed failure s' ∧
        failure.fault = (fault.toFailure builtin.name "plus").fault := by
  refine ⟨fun total folded => ?_, fun fault folded => ?_⟩
  · obtain ⟨object, sumWhy, s', gives, rests⟩ :=
      works.evalPlus_gives joins names room done are known folded
    obtain ⟨stateWhy, -, -, ofClass⟩ := id gives.holds
    rw [joins.ofClass] at ofClass
    exact ⟨_, s', gives.done, gives.adds, ofClass, gives.holds, rests⟩
  · have objects := expectOperands_done expr are
    obtain ⟨given, rest, isFirst, areOthers, rfl⟩ := List.forall₂_cons_right_iff.1 are
    obtain ⟨failure, s', failed, same⟩ :=
      (works.joinOperands_folds joins steps names room isFirst areOthers known).2 fault folded
    refine ⟨failure, s', ?_, same⟩
    rw [evalPlus, Action.bind_done done, Action.bind_done objects]
    dsimp only
    rw [Action.bind_failed failed]

/-- Objects of a built-in class have the states that are joined. -/
lemma Healthy.states_of {join : α → α → Except NativeFault α} (joins : Joins builtin state join)
    (h : s.Healthy) (fit : Justified.AllFit s infos)
    (ofClass : ∀ info ∈ infos, s.classOf? info.value = some builtin.classId) :
    ∃ states, List.Forall₂ (fun info x => Is (state x) info.value s) infos states := by
  induction infos with
  | nil => exact ⟨[], .nil⟩
  | cons info rest ih =>
    obtain ⟨fits, others⟩ := List.forall_mem_cons.1 fit
    obtain ⟨isClass, classes⟩ := List.forall_mem_cons.1 ofClass
    obtain ⟨states, are⟩ := ih others classes
    obtain ⟨handle, found, isBuiltin⟩ := h.state_of fits isClass
    obtain ⟨x, stateWhy, rfl, recorded⟩ := joins.states isBuiltin (h.sound.handle_in found)
    refine ⟨x :: states, .cons ⟨stateWhy, found, recorded, ?_⟩ are⟩
    rw [isBuiltin]
    exact isClass

/-- The operands of a sum have been evaluated, and are objects of a built-in class, by whose name
objects of it can be made. There is room for another call. -/
structure Operands (now : Session) (builtin : Builtin) (steps : Nat) (why : ReasonId)
    (operands : List Expr) (infos : List Justified) (later : Session) : Prop where
  recorded : Nat.lt why now.graph.size
  room : now.calls.isFull = false
  done : evalArgs (.within (steps + 2)) why operands now = .done infos later
  any : infos ≠ []
  names : later.Names builtin
  ofClass : ∀ info ∈ infos, later.classOf? info.value = some builtin.classId

/-- A sum of operands with states is what comes of joining their states, or fails as joining them
does. -/
lemma Healthy.sums {join : α → α → Except NativeFault α} (joins : Joins builtin state join)
    (h : now.Healthy) (given : now.Operands builtin steps why operands infos later) (expr : Expr) :
    ∃ first others,
      List.Forall₂ (fun info x => Is (state x) info.value later) infos (first :: others) ∧
      (∀ total, others.foldlM join first = .ok total →
        later.Sums builtin why infos (Is (state total))
          (evalPlus (.within (steps + 2)) expr operands why now)) ∧
      ∀ fault, others.foldlM join first = .error fault →
        ∃ failure s', evalPlus (.within (steps + 2)) expr operands why now = .failed failure s' ∧
          failure.fault = (fault.toFailure builtin.name "plus").fault := by
  obtain ⟨healthy, balanced, fit, known⟩ := h.evalArgs given.recorded given.done
  obtain ⟨states, are⟩ := healthy.states_of joins fit given.ofClass
  have room : later.calls.isFull = false := by rw [balanced.calls, given.room]
  cases states with
  | nil =>
    cases are
    exact absurd rfl given.any
  | cons first others =>
    exact ⟨first, others, are,
      healthy.works.evalPlus_folds joins given.names room given.done are known⟩

/-- Sums and texts put together are what they should be: the number is the sum of all numbers, or
missing if one of them is, unless the sum of the first ones needs more than 64 bits; and the text is
all texts one after the other. -/
structure AddsUp (now : Session) : Prop where
  numbers {steps loc why operands infos later expr} :
    expr ∈ [Expr.plus loc operands, Expr.concat loc operands] →
    now.Operands .num steps why operands infos later →
    (∀ info ∈ infos, ∀ n, later.number? info.value = some (some n) → Text.isInt64 n = true) →
    ∃ numbers, infos.map (later.number? ·.value) = numbers.map some ∧
      (¬ Overflows numbers →
        later.Sums .num why infos (fun value s' => s'.number? value = some (total? numbers))
          (Because.eval (steps + 3) expr why now)) ∧
      (Overflows numbers → ∃ failure s',
        Because.eval (steps + 3) expr why now = .failed failure s' ∧
          failure.fault = .native "Num" "plus" "integer overflow in plus")
  texts {steps loc why operands infos later expr} :
    expr ∈ [Expr.plus loc operands, Expr.concat loc operands] →
    now.Operands .string steps why operands infos later →
    ∃ texts, infos.map (later.content? ·.value) = texts.map some ∧
      later.Sums .string why infos (fun value s' => s'.content? value = some (String.join texts))
        (Because.eval (steps + 3) expr why now)

/-- Sums and texts put together are both joined from the left. -/
lemma eval_sum {loc : Location} (is : expr ∈ [Expr.plus loc operands, Expr.concat loc operands]) :
    Because.eval (steps + 3) expr why now =
      evalPlus (.within (steps + 2)) expr operands why now := by
  obtain rfl | rfl := List.mem_pair.1 is
  · rfl
  · rfl

/-- What holds of a sum may be weakened. -/
lemma Sums.mono {holds holds' : Value → Session → Prop} {o : Outcome Failure Justified}
    (h : s.Sums builtin why infos holds o)
    (weaker : ∀ value s', holds value s' → holds' value s') :
    s.Sums builtin why infos holds' o := by
  obtain ⟨result, s', done, adds, ofClass, is, rests⟩ := h
  exact ⟨result, s', done, adds, ofClass, weaker _ _ is, rests⟩

/-- Texts are joined to all of them, one after the other. -/
lemma foldlM_texts (first : String) (others : List String) :
    others.foldlM (fun x y => .ok (x ++ y)) first =
      (.ok (String.join (first :: others)) : Except NativeFault String) := by
  have joined := List.foldlM_pure (m := Except NativeFault) (f := fun x y => x ++ y) (b := first)
    (l := others)
  refine joined.trans (congrArg Except.ok ?_)
  rw [String.join, List.foldl_cons, String.empty_append]

/-- In a healthy session, sums are what they should be. -/
lemma Healthy.adds_up (h : now.Healthy) : now.AddsUp where
  numbers {steps loc why operands infos later expr} is given payloads := by
    obtain ⟨first, others, are, sums, overflows⟩ := h.sums joins_numbers given expr
    have reads := reads_of Is.number are
    have fits (n : Int) (mem : some n ∈ first :: others) : Text.isInt64 n = true := by
      have read := List.mem_map_of_mem (f := some) mem
      rw [← reads] at read
      obtain ⟨info, mem, read⟩ := List.mem_map.1 read
      exact payloads info mem n read
    obtain ⟨adds, refuses⟩ := foldlM_sum fits
    rw [eval_sum is]
    refine ⟨first :: others, reads, fun fine => ?_, fun large => ?_⟩
    · exact (sums _ (adds fine)).mono fun _ _ is => is.number
    · exact overflows _ (refuses large)
  texts {steps loc why operands infos later expr} is given := by
    obtain ⟨first, others, are, sums, -⟩ := h.sums joins_texts given expr
    rw [eval_sum is]
    exact ⟨first :: others, reads_of Is.content are,
      (sums _ (foldlM_texts first others)).mono fun _ _ is => is.content⟩

/-- In sessions that can come about, sums are exact, at every moment of every run. -/
theorem Reachable.sums_exact (h : s.Reachable) : s.AddsUp ∧
    ∀ steps program, s.Throughout steps program fun _ now => now.AddsUp := by
  refine ⟨h.healthy.adds_up, fun steps program => ?_⟩
  exact (h.healthy_throughout steps program).mono fun _ _ healthy => healthy.1.adds_up

/-- Two numbers. -/
def couple : List Expr :=
  [.new .builtin "Num" [.const .builtin (.int 2)], .new .builtin "Num" [.const .builtin (.int 3)]]

/-- Their sum is what it should be. -/
theorem Reachable.sums_exact_of_couple : (Session.start {} {}).Reachable ∧
    ∃ result s', Because.eval 5 (.plus .builtin couple) 0 (Session.start {} {}) =
        .done result s' ∧ s'.number? result.value = some (some 5) := by
  have reachable := Reachable.start {} {}
  have room : (Session.start {} {}).calls.isFull = false ∧
      0 < (Session.start {} {}).graph.size := by
    decide +kernel
  have runs : ((evalArgs (.within 4) 0 couple (Session.start {} {})).result?.any fun given =>
      decide (given.1 ≠ [] ∧ given.2.Names .num ∧
        (∀ info ∈ given.1, given.2.classOf? info.value = some Builtin.num.classId) ∧
        given.1.map (given.2.number? ·.value) = [some (some 2), some (some 3)])) = true := by
    decide +kernel
  obtain ⟨⟨infos, later⟩, evaluated, facts⟩ := (Option.any_eq_true ..).1 runs
  obtain ⟨any, names, ofClass, reads⟩ := of_decide_eq_true facts
  have given : Operands (Session.start {} {}) .num 2 0 couple infos later :=
    ⟨room.2, room.1, Outcome.eq_done evaluated, any, names, ofClass⟩
  have payloads (info : Justified) (mem : info ∈ infos) (n : Int)
      (is : later.number? info.value = some (some n)) : Text.isInt64 n = true := by
    have read := List.mem_map_of_mem (f := fun info : Justified => later.number? info.value) mem
    rw [reads, is, List.mem_pair, Option.some_inj, Option.some_inj, Option.some_inj,
      Option.some_inj] at read
    obtain rfl | rfl := read
    · decide
    · decide
  have isSum : Expr.plus .builtin couple ∈
      [Expr.plus .builtin couple, Expr.concat .builtin couple] := List.mem_cons_self
  obtain ⟨numbers, same, sums, -⟩ := reachable.sums_exact.1.numbers isSum given payloads
  obtain rfl : numbers = [some 2, some 3] :=
    List.map_injective_iff.2 (fun _ _ => Option.some_inj.1) (same.symm.trans reads)
  have fits : ¬ Overflows [some 2, some 3] := by
    rw [overflows_join (by decide)]
    exact fun overflows => overflows.elim (by decide) (not_overflows_one (by decide))
  obtain ⟨result, s', done, -, -, is, -⟩ := sums fits
  exact ⟨reachable, result, s', done, is⟩

/-- A program with a number, and with a function that gives the name of numbers to another class
before it returns this number. -/
def borrower : Program :=
  [.declare .builtin "one" (.new .builtin "Num" [.const .builtin (.int 1)]),
    .declareFunction .builtin ⟨"borrow", [],
      [.assign .builtin "Num" (.get .builtin "List"), .ret .builtin (.get .builtin "one")],
      .builtin⟩]

/-- The number, and the same number after its class has been given away. -/
def borrowed : List Expr := [.get .builtin "one", .call .builtin "borrow" []]

/-- When the sum is asked for, the names denote the built-in classes, and there is room for calls;
and the operands are numbers. But the name has been given away once they have been evaluated. -/
theorem borrowed_fails : (Session.start {} {}).Reachable ∧
    ∃ s, (Session.start {} {}).LeadsTo s ∧ s.Names .num ∧ s.Names .string ∧
      s.calls.isFull = false ∧ 0 < s.graph.size ∧
      (∃ infos later, evalArgs (.within 5) 0 borrowed s = .done infos later ∧
        infos.map (fun info => (later.classOf? info.value, later.number? info.value)) =
          [(some Builtin.num.classId, some (some 1)), (some Builtin.num.classId, some (some 1))]) ∧
      (Because.eval 6 (.plus .builtin borrowed) 0 s).failure?.map (·.1.fault) =
        some (.native "Num" "new" "List expects 0 arguments, got 1") := by
  have runs : ((Because.runProgram (.within 6) borrower (Session.start {} {})).session?.map
      fun s => decide (s.Names .num ∧ s.Names .string ∧ s.calls.isFull = false ∧
        0 < s.graph.size ∧
        ((evalArgs (.within 5) 0 borrowed s).result?.any fun given =>
          decide (given.1.map (fun info => (given.2.classOf? info.value,
            given.2.number? info.value)) = [(some Builtin.num.classId, some (some 1)),
              (some Builtin.num.classId, some (some 1))])) = true ∧
        (Because.eval 6 (.plus .builtin borrowed) 0 s).failure?.map (·.1.fault) =
          some (.native "Num" "new" "List expects 0 arguments, got 1"))) = some true := by
    decide +kernel
  obtain ⟨s, left, facts⟩ := Option.map_eq_some_iff.1 runs
  obtain ⟨num, string, room, recorded, given, fails⟩ := of_decide_eq_true facts
  obtain ⟨⟨infos, later⟩, evaluated, are⟩ := (Option.any_eq_true ..).1 given
  exact ⟨.start {} {}, s, ⟨6, borrower, left⟩, num, string, room, recorded,
    ⟨infos, later, Outcome.eq_done evaluated, of_decide_eq_true are⟩, fails⟩

end Session

end Because
