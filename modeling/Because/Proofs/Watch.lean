import Because.Proofs.Comparison.Limit

/-!
# Watching runs

What holds at every moment of a run cannot be read off its end. So a run is watched: at the start
and at the end of every expression, statement and call the session is checked, and the first check
that fails ends the run with an alarm. A property holds throughout a run if watching for it makes
no difference, whatever the alarm is. This also says something of runs that never end.
-/

namespace Because

/-- A moment of a run: something inside it is about to run, or has just ended. -/
inductive Moment where
  | evaluating (expr : Expr) (why : ReasonId)
  | executing (stmt : Stmt) (why : ReasonId)
  | calling (id : FunctionId) (args : List Justified) (why : ReasonId)
  /-- An expression or a call has a value. -/
  | evaluated (result : Justified)
  | executed (flow : Flow)
  | failed (failure : Failure)

open Classical in
/-- Check the session before and after an action. -/
noncomputable def watch {α : Type} (ok : Moment → Session → Prop) (alarm : Failure)
    (before : Moment) (after : α → Moment) (action : Eval α) : Eval α := fun s =>
  if ok before s then
    match action s with
    | .done x s' => if ok (after x) s' then .done x s' else .failed alarm s'
    | .failed failure s' =>
      if ok (.failed failure) s' then .failed failure s' else .failed alarm s'
    | .exhausted => .exhausted
  else .failed alarm s

/-- Check the session at the start and at the end of all that runs inside a node. -/
noncomputable def Inner.watched (ok : Moment → Session → Prop) (alarm : Failure) (inner : Inner) :
    Inner where
  eval expr why := watch ok alarm (.evaluating expr why) .evaluated (inner.eval expr why)
  exec stmt why := watch ok alarm (.executing stmt why) .executed (inner.exec stmt why)
  call id args why := watch ok alarm (.calling id args why) .evaluated (inner.call id args why)
  passes := inner.passes

/-- How to run what lies inside a node within a number of steps, with checks all the way down. -/
noncomputable def Inner.watchedWithin (ok : Moment → Session → Prop) (alarm : Failure) :
    Nat → Inner
  | 0 => .spent
  | steps + 1 => ((watchedWithin ok alarm steps).next).watched ok alarm

/-- A property holds at every moment of a run. -/
def Session.Throughout (s : Session) (steps : Nat) (program : Program)
    (ok : Moment → Session → Prop) : Prop :=
  ∀ alarm, Because.runProgram (.watchedWithin ok alarm steps) program s =
    Because.runProgram (.within steps) program s

section

variable {ok : Moment → Session → Prop} {alarm : Failure} {α : Type} {before : Moment}
  {after : α → Moment} {action : Eval α} {s : Session}

/-- A check that fails at the start ends the action. -/
lemma watch_alarm (first : ¬ ok before s) :
    watch ok alarm before after action s = .failed alarm s := by
  simp only [watch, if_neg first]

/-- If only the check at the start can fail, an action that passes it runs as if unwatched. -/
lemma watch_pass (first : ok before s) (last : ∀ x s', ok (after x) s')
    (failed : ∀ failure s', ok (.failed failure) s') :
    watch ok alarm before after action s = action s := by
  simp only [watch, if_pos first]
  cases action s with
  | done x s' => simp only [if_pos (last x s')]
  | failed failure s' => simp only [if_pos (failed failure s')]
  | exhausted => rfl

end

namespace Comparison

variable {C : Comparison} {c : Census} {s t : Session} {ok : Moment → Session → Prop}
  {alarm : Failure}

/-- Whatever the comparison knows of a moment makes the second session pass the check. -/
structure Passes (C : Comparison) (ok : Moment → Session → Prop) : Prop where
  evaluating {c s t why} (expr : Expr) : C.Pair c s t → c.reason why →
    ok (.evaluating expr (C.rename why)) t
  executing {c s t why} (stmt : Stmt) : C.Pair c s t → c.reason why →
    ok (.executing stmt (C.rename why)) t
  evaluated {c s t x y} : C.Pair c s t → C.Info c x y → ok (.evaluated y) t
  executed {c s t x y} : C.Pair c s t → C.Flows c x y → ok (.executed y) t
  failed {c s t e f} : C.Pair c s t → C.failures.related c e f → ok (.failed f) t

variable {α β : Type} {Q : Census → α → β → Prop} {before : Moment} {after : β → Moment}

/-- An action that passes its checks may be watched. -/
lemma Ends.watch {o : Outcome Failure α} {b : Eval β} (ends : C.Ends C.failures c s t Q o (b t))
    (passes : C.Passes ok) (first : ok before t)
    (last : ∀ {d s' t' x y}, C.Pair d s' t' → Q d x y → ok (after y) t') :
    C.Ends C.failures c s t Q o (watch ok alarm before after b t) := by
  simp only [Because.watch, if_pos first]
  generalize b t = o' at ends
  cases ends with
  | done le pair ks kt q =>
    simp only [if_pos (last pair q)]
    exact .done le pair ks kt q
  | failed le pair ks kt e =>
    simp only [if_pos (passes.failed pair e)]
    exact .failed le pair ks kt e
  | exhausted h => exact .exhausted h
  | escaped ks h => exact .escaped ks h

variable {p : Expr → Prop} {q : Stmt → Prop} {i j : Inner}

/-- Checks that are passed change nothing of how two ways to run match. Those of the calls may
also be spared where the first run escapes. -/
lemma Insides.watched (h : C.Insides p q i j) (passes : C.Passes ok)
    (calling : ∀ {c s t id args why}, C.Pair c s t → c.function id → Justified.AllIn c args →
      c.reason why →
      ok (.calling id (args.map (Justified.rename C.rename)) (C.rename why)) t ∨
        ∃ failure, i.call id args why s = .failed failure s ∧ C.escape failure.fault) :
    C.Insides p q i (j.watched ok alarm) where
  eval parts hw s t pair :=
    (h.eval parts hw s t pair).watch passes (passes.evaluating _ pair hw) passes.evaluated
  exec parts hw s t pair :=
    (h.exec parts hw s t pair).watch passes (passes.executing _ pair hw) passes.executed
  call hf ha hw s t pair := by
    obtain first | ⟨failure, fails, escapes⟩ := calling pair hf ha hw
    · exact (h.call hf ha hw s t pair).watch passes first passes.evaluated
    · rw [fails]
      exact .escaped (.refl s) escapes
  passes := h.passes

/-- Runs may be watched at every depth for what the comparison knows. -/
lemma Insides.watchedWithin [C.Lawful] (admits : C.Admits)
    (room : ∀ {d s t} (frame : Frame), C.Pair d s t → C.Room d frame s t) (passes : C.Passes ok)
    (calling : ∀ {c s t id args why}, C.Pair c s t → c.function id → Justified.AllIn c args →
      c.reason why → ok (.calling id (args.map (Justified.rename C.rename)) (C.rename why)) t)
    (alarm : Failure) (steps : Nat) :
    C.Insides (fun _ => True) (fun _ => True) (.within steps)
      (.watchedWithin ok alarm steps) := by
  induction steps with
  | zero => exact .spent admits.tires
  | succ steps ih =>
    have next : C.Insides (fun _ => True) (fun _ => True) (.within (steps + 1))
        (Inner.watchedWithin ok alarm steps).next := by
      rw [Inner.within_succ]
      refine ih.next (fun _ => admits.expr _) (fun _ => admits.stmt _) ?_
      intro d id args because _ ha hw
      exact callFunction_sim ih (fun _ _ => trivial) room id ha hw
    exact next.watched passes fun pair hf ha hw => .inl (calling pair hf ha hw)

/-- The first of two runs may be watched, if it may escape by the alarm. -/
lemma Ends.watchFirst {a : Eval α} {after : α → Moment} {o' : Outcome Failure β}
    (ends : C.Ends C.failures c s t Q (a s) o') (heard : C.escape alarm.fault) :
    C.Ends C.failures c s t Q (Because.watch ok alarm before after a s) o' := by
  unfold Because.watch
  split
  · generalize a s = o at ends
    cases ends with
    | done le pair ks kt q =>
      dsimp only
      split
      · exact .done le pair ks kt q
      · exact .escaped ks heard
    | failed le pair ks kt e =>
      dsimp only
      split
      · exact .failed le pair ks kt e
      · exact .escaped ks heard
    | exhausted h => exact .exhausted h
    | escaped ks h =>
      dsimp only
      split
      · exact .escaped ks h
      · exact .escaped ks heard
  · exact .escaped (.refl s) heard

end Comparison

end Because
