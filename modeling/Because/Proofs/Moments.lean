import Because.Proofs.Watch

/-!
# Moments of actions

What holds at the moments of a whole run is one question, and what holds at those of a single call
or of a single node another: at all moments of it, at those that belong to the body of the called
function and not to what it calls, or just when the node itself has something run. In each case the
property holds if watching for it makes no difference; and this is shown by any one alarm that
cannot be confused with a failure of the run.
-/

namespace Because

/-! ## Ways to watch -/

/-- How to run what lies inside the body of a function, with checks in the body itself but none in
what it calls. -/
noncomputable def Inner.watchedBody (ok : Moment → Session → Prop) (alarm : Failure) : Nat → Inner
  | 0 => .spent
  | steps + 1 =>
    { ((watchedBody ok alarm steps).next).watched ok alarm with
      call := callFunction (.within steps) }

namespace Session

variable {α : Type}

/-- A property holds at every moment of an action. -/
def During (s : Session) (steps : Nat) (action : Inner → Eval α) (ok : Moment → Session → Prop) :
    Prop :=
  ∀ alarm, action (.watchedWithin ok alarm steps) s = action (.within steps) s

/-- A property holds at every moment of an action that does not belong to a call that it makes. -/
def InBody (s : Session) (steps : Nat) (action : Inner → Eval α) (ok : Moment → Session → Prop) :
    Prop :=
  ∀ alarm, action (.watchedBody ok alarm steps) s = action (.within steps) s

/-- A property holds whenever the action itself has something run, and when this has ended. -/
def Directly (s : Session) (steps : Nat) (action : Inner → Eval α)
    (ok : Moment → Session → Prop) : Prop :=
  ∀ alarm, action ((Inner.within steps).watched ok alarm) s = action (.within steps) s

/-- The action gets to a moment: it is not so that all its moments are others. -/
def DuringAt (s : Session) (steps : Nat) (action : Inner → Eval α) (moment : Moment)
    (now : Session) : Prop :=
  ¬ s.During steps action fun moment' now' => ¬ (moment' = moment ∧ now' = now)

/-- The action itself gets to a moment: it is not so that all moments at which it has something run
are others. -/
def DirectlyAt (s : Session) (steps : Nat) (action : Inner → Eval α) (moment : Moment)
    (now : Session) : Prop :=
  ¬ s.Directly steps action fun moment' now' => ¬ (moment' = moment ∧ now' = now)

/-- The body of the called function gets to a moment. -/
def InBodyAt (s : Session) (steps : Nat) (action : Inner → Eval α) (moment : Moment)
    (now : Session) : Prop :=
  ¬ s.InBody steps action fun moment' now' => ¬ (moment' = moment ∧ now' = now)

end Session

instance : Nontrivial Fault := ⟨.inputExhausted, .raised "", nofun⟩

/-- No run fails by all faults. -/
lemma Outcome.exists_unheard {α : Type} (o : Outcome Failure α) :
    ∃ fault, ∀ failure s', o = .failed failure s' → failure.fault ≠ fault := by
  cases o with
  | failed failure s' =>
    obtain ⟨fault, other⟩ := exists_ne failure.fault
    refine ⟨fault, ?_⟩
    rintro _ _ ⟨⟩
    exact other.symm
  | done | exhausted =>
    refine ⟨.inputExhausted, ?_⟩
    rintro _ _ ⟨⟩

namespace Comparison

/-! ## Runs that an alarm cuts short -/

/-- The comparison of a run with itself, where the first run may be cut short by a fault. -/
def cut (fault : Fault) : Comparison := relimited id (fun _ => True) (fun _ => True) (· = fault)

variable {fault : Fault} {c : Census} {s t : Session}

instance : (cut fault).Lawful := relimited_lawful fun _ _ => trivial

/-- A run that may be cut short may do anything. -/
lemma cut_admits : (cut fault).Admits := relimited_admits

/-- A call may begin in both runs or in neither. -/
lemma cut_room (frame : Frame) (pair : (cut fault).Pair c s t) : (cut fault).Room c frame s t :=
  relimited_id_room (fun _ _ _ => .inl trivial) (fun _ _ _ _ => trivial) frame pair

/-- A session corresponds to itself. -/
lemma cut_pair (s : Session) : (cut fault).Pair .all s s := relimited_pair trivial .all s.in_all

/-- Corresponding values are the same. -/
lemma cut_info {x y : Justified} (h : (cut fault).Info c x y) : y = x := h.1

/-- Corresponding flows are the same. -/
lemma cut_flows {x y : Flow} (h : (cut fault).Flows c x y) : y = x := h.1.trans x.rename_id

/-- Corresponding failures are the same. -/
lemma cut_failures {e f : Failure} (h : (cut fault).failures.related c e f) : f = e :=
  h.1.trans e.rename_id

/-- Arguments correspond to themselves. -/
lemma cut_args (args : List Justified) :
    args.map (Justified.rename (cut fault).rename) = args := args.map_id

/-- Unless it is cut short, the first run ends like the second. -/
lemma Ends.cut_eq {α : Type} {Q : Census → α → α → Prop} {o o' : Outcome Failure α}
    (h : (cut fault).Ends (cut fault).failures c s t Q o o') (same : ∀ {d x y}, Q d x y → y = x)
    (heard : ∀ failure s', o = .failed failure s' → failure.fault ≠ fault) : o' = o := by
  cases h with
  | done _ pair _ _ q =>
    obtain ⟨rfl, -⟩ := pair.holds
    rw [same q]
    rfl
  | failed _ pair _ _ related =>
    obtain ⟨rfl, -⟩ := pair.holds
    rw [cut_failures related]
    rfl
  | exhausted _ => rfl
  | escaped _ escapes => exact absurd escapes (heard _ _ rfl)

/-! ## Watching one run or both -/

section

variable {α : Type} {Q : Census → α → α → Prop} {a b : Eval α} {before : Moment}
  {after : α → Moment} {ok ok' : Moment → Session → Prop} {alarm other : Failure}

/-- If the first run is watched for more than the second, only the first is cut short. -/
lemma Ends.watchBoth (ends : (cut fault).Ends (cut fault).failures c s t Q (a s) (b t))
    (start : t = s) (same : ∀ {d x y}, Q d x y → y = x) (heard : alarm.fault = fault)
    (wider : ∀ moment now, ok moment now → ok' moment now) :
    (cut fault).Ends (cut fault).failures c s t Q (Because.watch ok alarm before after a s)
      (Because.watch ok' other before after b t) := by
  obtain rfl := start
  unfold Because.watch
  split
  · rename_i first
    rw [if_pos (wider _ _ first)]
    generalize a t = o, b t = o' at ends
    cases ends with
    | @done d s' t' x y le pair ks kt q =>
      obtain rfl : t' = s' := pair.holds.1
      obtain rfl := same q
      dsimp only
      split
      · rename_i last
        rw [if_pos (wider _ _ last)]
        exact .done le pair ks kt q
      · exact .escaped ks heard
    | @failed d s' t' e f le pair ks kt related =>
      obtain rfl : t' = s' := pair.holds.1
      obtain rfl := cut_failures related
      dsimp only
      split
      · rename_i last
        rw [if_pos (wider _ _ last)]
        exact .failed le pair ks kt related
      · exact .escaped ks heard
    | exhausted h => exact .exhausted h
    | escaped ks h =>
      dsimp only
      split
      · exact .escaped ks h
      · exact .escaped ks heard
  · exact .escaped (.refl t) heard

variable {p : Expr → Prop} {q : Stmt → Prop} {i j : Inner}

/-- The first of two ways to run may be watched, if this may cut it short. -/
lemma Insides.watchFirst (h : (cut fault).Insides p q i j) (heard : alarm.fault = fault) :
    (cut fault).Insides p q (i.watched ok alarm) j where
  eval parts hw s t pair := (h.eval parts hw s t pair).watchFirst heard
  exec parts hw s t pair := (h.exec parts hw s t pair).watchFirst heard
  call hf ha hw s t pair := (h.call hf ha hw s t pair).watchFirst heard
  passes := h.passes

/-- Both ways to run may be watched, the first for more. -/
lemma Insides.watchBoth (h : (cut fault).Insides p q i j) (heard : alarm.fault = fault)
    (wider : ∀ moment now, ok moment now → ok' moment now) :
    (cut fault).Insides p q (i.watched ok alarm) (j.watched ok' other) where
  eval parts hw s t pair :=
    (h.eval parts hw s t pair).watchBoth pair.holds.1 cut_info heard wider
  exec parts hw s t pair :=
    (h.exec parts hw s t pair).watchBoth pair.holds.1 cut_flows heard wider
  call {d id args why} hf ha hw s t pair := by
    have ends := h.call hf ha hw s t pair
    rw [cut_args] at ends ⊢
    exact ends.watchBoth pair.holds.1 cut_info heard wider
  passes := h.passes

/-- What cuts to another way to run also does so one step further. -/
lemma Insides.nextCut (h : (cut fault).Insides (fun _ => True) (fun _ => True) i j) :
    (cut fault).Insides (fun _ => True) (fun _ => True) i.next j.next := by
  refine h.next (fun _ => cut_admits.expr _) (fun _ => cut_admits.stmt _) ?_
  intro d id args because _ ha hw
  exact callFunction_sim h (fun _ _ => trivial) cut_room id ha hw

end

/-! ## Ways to run that may be cut short -/

/-- A way to run, which may be cut short by a fault, compares with another. -/
abbrev CutsTo (fault : Fault) (i j : Inner) : Prop :=
  (cut fault).Insides (fun _ => True) (fun _ => True) i j

section

variable (ok : Moment → Session → Prop) (steps : Nat)

/-- Without an alarm nothing is cut short. -/
lemma within_cut : CutsTo fault (.within steps) (.within steps) :=
  .within cut_admits cut_room steps

/-- A watched run is the run itself, but may be cut short by the alarm. -/
lemma watchedWithin_cut (alarm : Failure) :
    CutsTo alarm.fault (.watchedWithin ok alarm steps) (.within steps) := by
  induction steps with
  | zero => exact .spent trivial
  | succ steps ih => exact ih.nextCut.watchFirst rfl

/-- A run that is watched but for the calls in it may be cut short by the alarm. -/
lemma watchedBody_cut : CutsTo fault (.watchedBody ok (.of fault) steps) (.within steps) := by
  induction steps with
  | zero => exact .spent trivial
  | succ steps ih =>
    rw [Inner.within_succ]
    exact { ih.nextCut.watchFirst rfl with call := (within_cut steps).nextCut.call }

/-- A run that is watched at its first moments may be cut short by the alarm. -/
lemma watched_cut : CutsTo fault ((Inner.within steps).watched ok (.of fault)) (.within steps) :=
  (within_cut steps).watchFirst rfl

end

section

variable {ok ok' : Moment → Session → Prop} (other : Failure) (steps : Nat)
  (wider : ∀ moment now, ok moment now → ok' moment now)

include wider

/-- What passes the narrower watch passes the wider one. -/
lemma watchedWithin_cut_wider :
    CutsTo fault (.watchedWithin ok (.of fault) steps) (.watchedWithin ok' other steps) := by
  induction steps with
  | zero => exact .spent trivial
  | succ steps ih => exact ih.nextCut.watchBoth rfl wider

/-- What passes the narrower watch on a body passes the wider one. -/
lemma watchedBody_cut_wider :
    CutsTo fault (.watchedBody ok (.of fault) steps) (.watchedBody ok' other steps) := by
  induction steps with
  | zero => exact .spent trivial
  | succ steps ih =>
    exact { ih.nextCut.watchBoth rfl wider with call := (within_cut steps).nextCut.call }

/-- What passes the narrower watch on first moments passes the wider one. -/
lemma watched_cut_wider :
    CutsTo fault ((Inner.within steps).watched ok (.of fault))
      ((Inner.within steps).watched ok' other) :=
  (within_cut steps).watchBoth rfl wider

end

/-! ## Actions that any way to run may be given to -/

variable {α : Type}

/-- The action takes what lies inside it as it is given. -/
def Steady (action : Inner → Eval α) : Prop :=
  ∀ ⦃fault : Fault⦄ ⦃i j : Inner⦄, CutsTo fault i j →
    (cut fault).Sim (cut fault).failures .all Same (action i) (action j)

/-- A program takes what lies inside it as it is given. -/
lemma steady_runProgram (program : Program) : Steady (runProgram · program) :=
  fun _ _ _ h => runProgram_sim h program fun _ _ => trivial

/-- A call takes what lies inside it as it is given. -/
lemma steady_callFunction (f : FunctionId) (args : List Justified) (why : ReasonId) :
    Steady (callFunction · f args why) := by
  intro fault i j h
  have known : Justified.AllIn .all args := fun info _ => ⟨info.value.in_all, trivial⟩
  have because : Census.all.reason why := trivial
  have calls := callFunction_sim h (fun _ _ => trivial) cut_room f known because
  rw [cut_args] at calls
  exact calls.weaken cut_info

/-- An expression takes what lies inside it as it is given. -/
lemma steady_evalExpr (expr : Expr) (why : ReasonId) : Steady (evalExpr · expr why) :=
  fun _ _ _ h => (evalExpr_sim h (cut_admits.expr expr) trivial).weaken cut_info

/-- A statement takes what lies inside it as it is given. -/
lemma steady_execStmt (stmt : Stmt) (why : ReasonId) : Steady (execStmt · stmt why) :=
  fun _ _ _ h => (execStmt_sim h (cut_admits.stmt stmt) trivial).weaken cut_flows

namespace Steady

variable {action : Inner → Eval α} {ok ok' : Moment → Session → Prop} {s : Session} {steps : Nat}

/-- An action that is not cut short is the same however it is run. -/
lemma eq_of_unheard (h : Steady action) {fault : Fault} {i j : Inner} (cuts : CutsTo fault i j)
    (unheard : ∀ failure s', action i s = .failed failure s' → failure.fault ≠ fault) :
    action j s = action i s :=
  (h cuts s s (cut_pair s)).cut_eq id unheard

/-! It is enough to watch with one alarm, which the action does not raise. -/

/-- If the alarm is not heard during the action, the property holds at every moment. -/
lemma during (h : Steady action) {fault : Fault}
    (unheard : ∀ failure s', action (.watchedWithin ok (.of fault) steps) s = .failed failure s' →
      failure.fault ≠ fault) : s.During steps action ok := fun other =>
  (h.eq_of_unheard (watchedWithin_cut_wider other steps fun _ _ => id) unheard).trans
    (h.eq_of_unheard (watchedWithin_cut ok steps (.of fault)) unheard).symm

/-- If the alarm is not heard in the body, the property holds at every moment of the body. -/
lemma inBody (h : Steady action) {fault : Fault}
    (unheard : ∀ failure s', action (.watchedBody ok (.of fault) steps) s = .failed failure s' →
      failure.fault ≠ fault) : s.InBody steps action ok := fun other =>
  (h.eq_of_unheard (watchedBody_cut_wider other steps fun _ _ => id) unheard).trans
    (h.eq_of_unheard (watchedBody_cut ok steps) unheard).symm

/-- If the alarm is not heard at the first moments, the property holds at all of these. -/
lemma directly (h : Steady action) {fault : Fault}
    (unheard : ∀ failure s', action ((Inner.within steps).watched ok (.of fault)) s =
      .failed failure s' → failure.fault ≠ fault) : s.Directly steps action ok := fun other =>
  (h.eq_of_unheard (watched_cut_wider other steps fun _ _ => id) unheard).trans
    (h.eq_of_unheard (watched_cut ok steps) unheard).symm

/-! What holds at all moments may be weakened, as no run fails by all faults. -/

/-- A way to run that makes no difference with any alarm makes none without. -/
lemma eq_of_all (h : Steady action) {i : Failure → Inner} {j : Inner}
    (cuts : ∀ fault, CutsTo fault (i (.of fault)) j)
    (all : ∀ alarm, action (i alarm) s = action (.within steps) s) :
    action j s = action (.within steps) s := by
  obtain ⟨fault, unheard⟩ := (action (.within steps) s).exists_unheard
  rw [← all (.of fault)] at unheard ⊢
  exact h.eq_of_unheard (cuts fault) unheard

/-- What holds at every moment may be weakened. -/
lemma during_mono (h : Steady action) (holds : s.During steps action ok)
    (wider : ∀ moment now, ok moment now → ok' moment now) : s.During steps action ok' :=
  fun other => h.eq_of_all (fun _ => watchedWithin_cut_wider other steps wider) holds

/-- What holds at every moment of a body may be weakened. -/
lemma inBody_mono (h : Steady action) (holds : s.InBody steps action ok)
    (wider : ∀ moment now, ok moment now → ok' moment now) : s.InBody steps action ok' :=
  fun other => h.eq_of_all (fun _ => watchedBody_cut_wider other steps wider) holds

/-- What holds at all first moments may be weakened. -/
lemma directly_mono (h : Steady action) (holds : s.Directly steps action ok)
    (wider : ∀ moment now, ok moment now → ok' moment now) : s.Directly steps action ok' :=
  fun other => h.eq_of_all (fun _ => watched_cut_wider other steps wider) holds

/-! What holds at all moments holds at those which the action gets to. -/

/-- What holds at every moment holds at one that the action gets to. -/
lemma of_duringAt {moment : Moment} {now : Session} (h : Steady action)
    (holds : s.During steps action ok) (reached : s.DuringAt steps action moment now) :
    ok moment now := by
  by_contra fails
  refine reached (h.during_mono holds ?_)
  rintro _ _ passes ⟨rfl, rfl⟩
  exact fails passes

/-- What holds at every moment of a body holds at one that the body gets to. -/
lemma of_inBodyAt {moment : Moment} {now : Session} (h : Steady action)
    (holds : s.InBody steps action ok) (reached : s.InBodyAt steps action moment now) :
    ok moment now := by
  by_contra fails
  refine reached (h.inBody_mono holds ?_)
  rintro _ _ passes ⟨rfl, rfl⟩
  exact fails passes

/-- What holds at all first moments holds at one that the action gets to. -/
lemma of_directlyAt {moment : Moment} {now : Session} (h : Steady action)
    (holds : s.Directly steps action ok) (reached : s.DirectlyAt steps action moment now) :
    ok moment now := by
  by_contra fails
  refine reached (h.directly_mono holds ?_)
  rintro _ _ passes ⟨rfl, rfl⟩
  exact fails passes

end Steady

end Comparison

open Comparison

/-- Watching a run changes nothing but that the alarm may end it. -/
theorem watched_eq_or_alarm (ok : Moment → Session → Prop) (alarm : Failure) (steps : Nat)
    (program : Program) (s : Session) :
    runProgram (.watchedWithin ok alarm steps) program s =
        runProgram (.within steps) program s ∨
      ∃ failure s', runProgram (.watchedWithin ok alarm steps) program s = .failed failure s' ∧
        failure.fault = alarm.fault := by
  have runs := steady_runProgram program (watchedWithin_cut ok steps alarm) s s (cut_pair s)
  obtain same | alarmed := relimited_id_eq runs
  · exact .inl same.symm
  · exact .inr alarmed

/-- What holds at every moment of a run may be weakened. -/
lemma Session.Throughout.mono {s : Session} {steps : Nat} {program : Program}
    {ok ok' : Moment → Session → Prop} (h : s.Throughout steps program ok)
    (wider : ∀ moment now, ok moment now → ok' moment now) : s.Throughout steps program ok' :=
  (steady_runProgram program).during_mono h wider

end Because
