import Because.Proofs.Chronicle.Run

/-!
# Probing runs

Whether a run gets to a moment of some kind can be computed, if a test tells these moments from all
others: the run is stopped at the first moment that fails the test. This is what watching does for a
property that the test decides, so a run that a probe makes a difference to has such a moment.
-/

namespace Because

open Comparison

/-- Test the session before and after an action. -/
def probe {α : Type} (test : Moment → Session → Bool) (alarm : Failure) (before : Moment)
    (after : α → Moment) (action : Eval α) : Eval α := fun s =>
  if test before s then
    match action s with
    | .done x s' => if test (after x) s' then .done x s' else .failed alarm s'
    | .failed failure s' => if test (.failed failure) s' then .failed failure s' else .failed alarm s'
    | .exhausted => .exhausted
  else .failed alarm s

/-- Test the session at the start and at the end of all that runs inside a node. -/
def Inner.probed (test : Moment → Session → Bool) (alarm : Failure) (inner : Inner) : Inner where
  eval expr why := probe test alarm (.evaluating expr why) .evaluated (inner.eval expr why)
  exec stmt why := probe test alarm (.executing stmt why) .executed (inner.exec stmt why)
  call id args why := probe test alarm (.calling id args why) .evaluated (inner.call id args why)
  passes := inner.passes

/-- How to run what lies inside a node within a number of steps, with tests all the way down. -/
def Inner.probedWithin (test : Moment → Session → Bool) (alarm : Failure) : Nat → Inner
  | 0 => .spent
  | steps + 1 => ((probedWithin test alarm steps).next).probed test alarm

section

variable {ok : Moment → Session → Prop} {test : Moment → Session → Bool}
  (same : ∀ moment now, ok moment now ↔ test moment now = true)

include same

open Classical in
/-- Watching for what a test decides is testing. -/
lemma watch_eq_probe {α : Type} (alarm : Failure) (before : Moment) (after : α → Moment)
    (action : Eval α) : watch ok alarm before after action = probe test alarm before after action := by
  funext s
  refine if_congr (same before s) ?_ rfl
  cases action s with
  | done x s' => exact if_congr (same (after x) s') rfl rfl
  | failed failure s' => exact if_congr (same (.failed failure) s') rfl rfl
  | exhausted => rfl

/-- A watch whose property a test decides is a probe by the test. -/
lemma watched_eq_probed (alarm : Failure) (inner : Inner) :
    inner.watched ok alarm = inner.probed test alarm := by
  simp only [Inner.watched, Inner.probed, watch_eq_probe same]

/-- A probe of a run is a way to watch it. -/
lemma watchedWithin_eq_probedWithin (alarm : Failure) (steps : Nat) :
    Inner.watchedWithin ok alarm steps = Inner.probedWithin test alarm steps := by
  induction steps with
  | zero => rfl
  | succ steps ih => rw [Inner.watchedWithin, ih, watched_eq_probed same, Inner.probedWithin]

end

/-- What a run fails by, if it fails. -/
def Outcome.fault? {α : Type} (o : Outcome Failure α) : Option Fault :=
  o.failure?.map fun ended => ended.1.fault

/-- If the probe makes a run fail by another fault, the run gets to a moment that fails the test. -/
theorem exists_duringAt {test : Moment → Session → Bool} (fault : Fault) {steps : Nat}
    {program : Program} {s : Session}
    (differs : (runProgram (.probedWithin test (.of fault) steps) program s).fault? ≠
      (runProgram (.within steps) program s).fault?) :
    ∃ moment now, s.DuringAt steps (runProgram · program) moment now ∧ test moment now = false := by
  obtain ⟨log, chronicle⟩ := s.exists_chronicle steps program
  by_contra none
  refine differs (congrArg Outcome.fault? ?_)
  have tests (moment : Moment) (now : Session) : test moment now = true ↔ test moment now = true :=
    Iff.rfl
  rw [← watchedWithin_eq_probedWithin tests]
  refine (chronicle.during _).2 (fun moment now mem => ?_) (.of fault)
  by_contra fails
  refine none ⟨moment, now, fun never => ?_, Bool.eq_false_of_not_eq_true fails⟩
  exact (chronicle.during _).1 never moment now mem ⟨rfl, rfl⟩

end Because
