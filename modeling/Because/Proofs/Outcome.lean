import Because.Session.Action
import Mathlib.Tactic.Common

/-!
# How actions end

An action has a result, or it fails; unless it is given up, it leaves a session behind.
-/

namespace Because

namespace Outcome

variable {ε α : Type}

/-- The session that an action leaves behind. -/
def session? : Outcome ε α → Option Session
  | .done _ s | .failed _ s => some s
  | .exhausted => none

/-- The result of an action, and the session that it leaves behind. -/
def result? : Outcome ε α → Option (α × Session)
  | .done result s => some (result, s)
  | _ => none

/-- The failure of an action, and the session that it leaves behind. -/
def failure? : Outcome ε α → Option (ε × Session)
  | .failed failure s => some (failure, s)
  | _ => none

variable {o : Outcome ε α} {s : Session}

/-- What has a result is done with it. -/
lemma eq_done {result : α} (found : o.result? = some (result, s)) : o = .done result s := by
  cases o with
  | done =>
    cases found
    rfl
  | failed | exhausted => cases found

/-- What has a failure has failed with it. -/
lemma eq_failed {failure : ε} (found : o.failure? = some (failure, s)) :
    o = .failed failure s := by
  cases o with
  | failed =>
    cases found
    rfl
  | done | exhausted => cases found

end Outcome

/-- With a trace, a failure is still due to the same fault. -/
lemma CallStack.attach_fault (calls : CallStack) (failure : Failure) :
    (calls.attach failure).fault = failure.fault := by
  unfold CallStack.attach
  split <;> rfl

namespace Action

variable {ε δ α β : Type} {a : Action ε α} {f : α → Action ε β} {s s' : Session}

/-- Another wording of errors leaves the same session behind. -/
lemma session?_mapError (f : ε → δ) (action : Action ε α) (s : Session) :
    (action.mapError f s).session? = (action s).session? := by
  simp only [mapError]
  cases action s <;> rfl

/-- An action that ends in two steps has ended the first one. -/
lemma done_of_bind {y : β} (done : (a >>= f) s = .done y s') :
    ∃ x now, a s = .done x now ∧ f x now = .done y s' := by
  simp only [Bind.bind] at done
  cases ends : a s with
  | done x now =>
    rw [ends] at done
    exact ⟨x, now, rfl, done⟩
  | failed | exhausted =>
    rw [ends] at done
    cases done

/-- After an action that is done comes what follows. -/
lemma bind_done {x : α} (done : a s = .done x s') : (a >>= f) s = f x s' := by
  simp only [Bind.bind, done]

/-- After an action that has failed nothing follows. -/
lemma bind_failed {failure : ε} (fails : a s = .failed failure s') :
    (a >>= f) s = .failed failure s' := by
  simp only [Bind.bind, fails]

/-- After an action that is exhausted nothing follows. -/
lemma bind_exhausted (ends : a s = .exhausted) : (a >>= f) s = .exhausted := by
  simp only [Bind.bind, ends]

/-! ## Scopes and calls -/

/-- A scope is left once the action in it is done. -/
lemma inScope_done {scope : ScopeId} {x : α}
    (done : a { s with entered := scope :: s.entered } = .done x s') :
    inScope scope a s = .done x { s' with entered := s'.entered.tail } := by
  simp only [inScope, done]

/-- A scope is left if the action in it fails. -/
lemma inScope_failed {scope : ScopeId} {failure : ε}
    (fails : a { s with entered := scope :: s.entered } = .failed failure s') :
    inScope scope a s = .failed failure { s' with entered := s'.entered.tail } := by
  simp only [inScope, fails]

/-- What is exhausted in a scope is exhausted. -/
lemma inScope_exhausted {scope : ScopeId}
    (ends : a { s with entered := scope :: s.entered } = .exhausted) :
    inScope scope a s = .exhausted := by
  simp only [inScope, ends]

/-- A call is over once it is done. -/
lemma inCall_done {a : Eval α} {frame : Frame} {x : α} (room : s.calls.isFull = false)
    (why : ReasonId) (done : a { s with calls := s.calls.enter frame } = .done x s') :
    inCall frame why a s = .done x { s' with calls := s'.calls.pop } := by
  simp only [inCall, CallStack.push, room, Bool.false_eq_true, if_false, done]

/-- A call for which there is no room is refused. -/
lemma inCall_full {a : Eval α} {frame : Frame} (full : s.calls.isFull = true) (why : ReasonId) :
    inCall frame why a s =
      .failed (.because (.recursionLimit (s.calls.limit.getD 0)) why) s := by
  simp only [inCall, CallStack.push, full, if_true]

/-- A call that fails adds its trace and is over. -/
lemma inCall_failed {a : Eval α} {frame : Frame} {failure : Failure}
    (room : s.calls.isFull = false) (why : ReasonId)
    (fails : a { s with calls := s.calls.enter frame } = .failed failure s') :
    inCall frame why a s =
      .failed (s'.calls.attach failure) { s' with calls := s'.calls.pop } := by
  simp only [inCall, CallStack.push, room, Bool.false_eq_true, if_false, fails]

/-- What is exhausted in a call is exhausted. -/
lemma inCall_exhausted {a : Eval α} {frame : Frame} (room : s.calls.isFull = false)
    (why : ReasonId) (ends : a { s with calls := s.calls.enter frame } = .exhausted) :
    inCall frame why a s = .exhausted := by
  simp only [inCall, CallStack.push, room, Bool.false_eq_true, if_false, ends]

end Action

end Because
