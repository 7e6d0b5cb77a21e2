import Because.Proofs.Chronicle.Stmt
import Because.Proofs.Moments

/-!
# Chronicles of runs

Whatever runs within a number of steps has a chronicle: its moments in their order, and what becomes
of the objects from each of them to the next. That the moments are those of the run is said by what
a watched run does: it is stopped at the first moment that does not pass the check.
-/

namespace Because

/-! ## Moments -/

section

variable {α : Type} {s : Session} {log : List Event} {before : Moment} {after : α → Moment}

/-- The moment at which what was run has ended. -/
def Outcome.closing (after : α → Moment) : Outcome Failure α → List Event
  | .done x now => [.moment (after x) now]
  | .failed failure now => [.moment (.failed failure) now]
  | .exhausted => []

/-- A story that ends may end with the moment at which it has ended. -/
lemma Story.close {o : Outcome Failure α} (story : Story s log o.session?)
    (plain : ∀ x now, (Event.moment (after x) now).after = now) :
    Story s (log ++ o.closing after) o.session? := by
  cases o with
  | done x now =>
    refine story.append (.next (.refl now) ?_)
    rw [plain]
    exact .ends (.refl now)
  | failed failure now => exact story.append (.next (.refl now) (.ends (.refl now)))
  | exhausted =>
    rw [Outcome.closing, List.append_nil]
    exact story

/-- What is watched is stopped before it, in it, or when it has ended. -/
lemma Check.Ends.watch {c : Check} {a b : Eval α} (ends : c.Ends log (a s) (b s)) :
    c.Ends (.moment before s :: (log ++ (a s).closing after)) (a s)
      (Because.watch c.ok c.alarm before after b s) := by
  by_cases ok : c.ok before s
  · simp only [Because.watch, if_pos ok]
    generalize b s = o at ends
    cases ends with
    | passed passes =>
      have first : ∀ e ∈ Event.moment before s :: log, c.Passes e :=
        List.forall_mem_cons.2 ⟨ok, passes⟩
      have last {moment now} (passed : c.ok moment now) : ∀ e ∈ [.moment moment now], c.Passes e :=
        List.forall_mem_singleton.2 passed
      cases a s with
      | done x now =>
        dsimp only
        split
        · rename_i passed
          exact .passed (List.forall_mem_append.2 ⟨first, last passed⟩)
        · rename_i fails
          exact .stopped (.behind first (.here fails rfl rfl)) rfl
      | failed failure now =>
        dsimp only
        split
        · rename_i passed
          exact .passed (List.forall_mem_append.2 ⟨first, last passed⟩)
        · rename_i fails
          exact .stopped (.behind first (.here fails rfl rfl)) rfl
      | exhausted =>
        rw [Outcome.closing, List.append_nil]
        exact .passed first
    | stopped stops raises =>
      dsimp only
      split
      · exact .stopped (.later ok stops.before) raises
      · exact .stopped (.later ok stops.before) rfl
  · rw [watch_alarm ok]
    exact .stopped (.here ok rfl rfl) rfl

end

/-- Watching adds to a chronicle the moments before and after. -/
lemma Action.Logged.watch {α : Type} {before : Moment} {after : α → Moment} {a : Eval α}
    {b : Check → Eval α} (h : a.Logged b)
    (first : ∀ now, (Event.moment before now).after = now)
    (last : ∀ x now, (Event.moment (after x) now).after = now) :
    a.Logged fun c => Because.watch c.ok c.alarm before after (b c) := by
  intro s
  obtain ⟨log, story, checked⟩ := h s
  refine ⟨.moment before s :: (log ++ (a s).closing after), .next (.refl s) ?_,
    fun c => (checked c).watch⟩
  rw [first]
  exact story.close last

/-! ## Handing over to a method that changes a state -/

/-- Methods that change a state have nothing run. -/
lemma invoke_eq_spent {method : String} (changes : method ∈ mutators) (inner : Inner)
    (this : ScopeId) (handle : Handle) :
    Native.invoke inner this handle method = Native.invoke .spent this handle method := by
  simp only [mutators, List.mem_cons, List.not_mem_nil, or_false] at changes
  obtain rfl | rfl | rfl | rfl := changes
  all_goals cases handle <;> rfl

/-- To hand over to a method that changes a state, no way to run what lies inside is needed. -/
lemma invokeNative_eq_spent {method : String} (changes : method ∈ mutators) (inner : Inner) :
    invokeNative inner method = invokeNative .spent method := by
  funext params loc why
  simp only [invokeNative, invoke_eq_spent changes inner]

/-- After the start of any other statement nothing has changed yet. -/
lemma Event.after_of_not_mutates {stmt : Stmt} (looks : ¬ stmt.Mutates) (why : ReasonId)
    (now : Session) : (Event.moment (.executing stmt why) now).after = now := by
  cases stmt with
  | invokeNative loc method params => exact if_neg looks
  | _ => rfl

/-- What the hand-over to a method that changes a state does is what follows its event. -/
lemma execStmt_mutates {inner : Inner} {w : Check → Inner} {stmt : Stmt} (changes : stmt.Mutates)
    (why : ReasonId) :
    Action.Logged (execStmt inner stmt why) fun c =>
      watch c.ok c.alarm (.executing stmt why) .executed (execStmt (w c) stmt why) := by
  cases stmt with
  | invokeNative loc method params =>
    intro s
    have spent (i : Inner) : execStmt i (.invokeNative loc method params) why =
        invokeNative .spent method params loc why := by
      rw [execStmt, invokeNative_eq_spent changes i]
    have member : method ∈ mutators := changes
    let first := Event.moment (.executing (.invokeNative loc method params) why) s
    let a := invokeNative .spent method params loc why
    have story : Story first.after [] (a s).session? := by
      simp only [first, Event.after, if_pos member]
      cases (invokeNative .spent method params loc why s).session? with
      | none => exact .lost
      | some now => exact .ends (.refl now)
    simp only [spent]
    exact ⟨first :: ([] ++ (a s).closing .executed), .next (.refl s) (story.close fun _ _ => rfl),
      fun c => Check.Ends.watch (a := a) (b := a) (.passed (List.forall_mem_nil _))⟩
  | _ => exact changes.elim

/-! ## All that runs -/

namespace Inner

variable {inner : Inner} {w : Check → Inner}

/-- If what lies inside is logged, so is what lies one step further out, with the moments before and
after it. -/
lemma Logged.next (h : inner.Logged w) :
    inner.next.Logged fun c => ((w c).next).watched c.ok c.alarm where
  eval expr why := (evalExpr_logged h expr why).watch (fun _ => rfl) fun _ _ => rfl
  exec stmt why := by
    by_cases changes : stmt.Mutates
    · exact execStmt_mutates changes why
    · exact (execStmt_logged h changes why).watch (Event.after_of_not_mutates changes why)
        fun _ _ => rfl
  call id args why := (callFunction_logged h id args why).watch (fun _ => rfl) fun _ _ => rfl
  passes c := congrArg (· + 1) (h.passes c)

/-- Whatever runs within a number of steps is logged by its moments. -/
lemma logged_within (steps : Nat) :
    (within steps).Logged fun c => .watchedWithin c.ok c.alarm steps := by
  induction steps with
  | zero => exact ⟨fun _ _ => .giveUp, fun _ _ => .giveUp, fun _ _ _ => .giveUp, fun _ => rfl⟩
  | succ steps ih => exact ih.next

end Inner

namespace Session

variable {α : Type}

/-- The log tells what happens while the action runs within a number of steps: whatever is checked,
the run is stopped at the first moment of the log that does not pass. -/
structure Chronicle (s : Session) (steps : Nat) (action : Inner → Eval α) (log : List Event) :
    Prop where
  story : Story s log (action (.within steps) s).session?
  checked (c : Check) : c.Ends log (action (.within steps) s)
    (action (.watchedWithin c.ok c.alarm steps) s)

/-- A run has a chronicle. -/
theorem exists_chronicle (s : Session) (steps : Nat) (program : Program) :
    ∃ log, s.Chronicle steps (Because.runProgram · program) log := by
  obtain ⟨log, story, checked⟩ := runProgram_logged (Inner.logged_within steps) program s
  exact ⟨log, story, checked⟩

/-- The moments of a chronicle are those of the run. -/
lemma Chronicle.during {s : Session} {steps : Nat} {action : Inner → Eval α} {log : List Event}
    (h : s.Chronicle steps action log) (ok : Moment → Session → Prop) :
    s.During steps action ok ↔ ∀ moment now, .moment moment now ∈ log → ok moment now := by
  constructor
  · intro during moment now mem
    obtain ⟨fault, unheard⟩ := (action (.within steps) s).exists_unheard
    have ends := h.checked ⟨ok, .of fault⟩
    rw [during] at ends
    generalize action (.within steps) s = o at ends unheard
    cases ends with
    | passed passes => exact passes _ mem
    | stopped _ raises => exact absurd raises (unheard _ _ rfl)
  · intro all alarm
    have passes : ∀ e ∈ log, Check.Passes ⟨ok, alarm⟩ e := by
      intro e mem
      cases e with
      | moment moment now => exact all moment now mem
      | filled => exact trivial
    have ends := h.checked ⟨ok, alarm⟩
    generalize action (.within steps) s = o, action (.watchedWithin ok alarm steps) s = o' at ends ⊢
    cases ends with
    | passed => rfl
    | stopped stops _ => exact absurd passes stops.fails

end Session

end Because
