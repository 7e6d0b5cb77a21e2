import Because.Proofs.Rename

/-!
# Comparing two runs

Many properties of the evaluator are about two runs of the same program: with two limits on the
depth of calls, with differently numbered reasons, or, if both runs are the same one, about a
single run and what holds all along it. A comparison says when the sessions of two runs
correspond, and what of it a rule may rely on. An action of the first run *matches* one of the
second if from corresponding sessions they end alike, in corresponding sessions.

That the rules of the evaluator match themselves is proved once, for every comparison that
respects the few ways in which a session changes (`Comparison.Lawful`). The scopes that have been
entered and the calls in progress need no comparison: every action leaves them as it found them,
and this is part of what it means to match.
-/

namespace Because

/-- What two runs have in common. -/
structure Comparison where
  /-- How the second run numbers the reasons of the first. -/
  rename : ReasonId → ReasonId
  /-- Which reasons of the first run are its own; only these may be hidden. -/
  own : ReasonId → Prop
  /-- What else holds of two corresponding sessions, at a census of the first. -/
  holds : Census → Session → Session → Prop
  /-- The faults by which both runs may fail together. -/
  fault : Fault → Prop
  /-- The faults of the first run after which the second may go on as it likes. -/
  escape : Fault → Prop
  /-- Whether both runs may run out of steps. -/
  tires : Prop
  /-- Whether programs may look at the numbers and the explanations of reasons. -/
  shows : Prop
  /-- Which statements may stand in the body of a function. -/
  body : Stmt → Prop

/-- All that a session holds lies in the census; the global scope is one of its scopes. -/
structure Session.In (c : Census) (s : Session) : Prop where
  global : c.scope Session.globalScope
  scopes : s.scopes.In c
  classes : ∀ classDef ∈ s.classes, classDef.In c
  functions : ∀ function ∈ s.functions, function.In c
  entered : ∀ scope ∈ s.entered, c.scope scope
  frames : ∀ frame ∈ s.calls.frames, frame.In c

/-- What a session holds lies in every later census. -/
lemma Session.In.mono {c d : Census} {s : Session} (le : c.Le d) (h : s.In c) : s.In d where
  global := le.scope h.global
  scopes := h.scopes.mono le
  classes classDef mem := (h.classes classDef mem).mono le
  functions function mem := (h.functions function mem).mono le
  entered scope mem := le.scope (h.entered scope mem)
  frames frame mem := (h.frames frame mem).mono le

/-- The scopes that have been entered and the calls in progress are the same. -/
structure Session.SameStacks (s s' : Session) : Prop where
  entered : s'.entered = s.entered
  calls : s'.calls = s.calls

namespace Session.SameStacks

/-- Doing nothing leaves the stacks alone. -/
lemma refl (s : Session) : s.SameStacks s := ⟨rfl, rfl⟩

/-- Two actions that leave the stacks alone do so together. -/
lemma trans {s s' s'' : Session} (h : s.SameStacks s') (h' : s'.SameStacks s'') :
    s.SameStacks s'' :=
  ⟨h'.entered.trans h.entered, h'.calls.trans h.calls⟩

/-- A scope that is left again was not entered. -/
lemma leaveScope {s s' : Session} {scope : ScopeId}
    (h : Session.SameStacks { s with entered := scope :: s.entered } s') :
    s.SameStacks { s' with entered := s'.entered.tail } := by
  refine ⟨?_, h.calls⟩
  rw [h.entered]
  rfl

/-- A call that is over was not begun. -/
lemma popCall {s s' : Session} {frame : Frame}
    (h : Session.SameStacks { s with calls := s.calls.enter frame } s') :
    s.SameStacks { s' with calls := s'.calls.pop } := by
  refine ⟨h.entered, ?_⟩
  rw [h.calls]
  rfl

end Session.SameStacks

/-- How errors of a type compare. -/
structure ErrorRel (ε : Type) where
  related : Census → ε → ε → Prop
  escapes : ε → Prop

namespace Comparison

variable (C : Comparison)

/-- Sessions of the two runs correspond. -/
structure Pair (c : Census) (s t : Session) : Prop where
  known : s.In c
  bodies : ∀ function ∈ s.functions, ∀ stmt ∈ function.body, C.body stmt
  scopes : t.scopes = s.scopes.rename C.rename
  classes : t.classes = s.classes
  functions : t.functions = s.functions
  entered : t.entered = s.entered
  frames : t.calls.frames = s.calls.frames
  console : t.console = s.console
  nextObject : t.nextObject = s.nextObject
  holds : C.holds c s t

/-- A reason that has been recorded and is the first run's own. -/
structure Owned (c : Census) (i : ReasonId) : Prop where
  reason : c.reason i
  own : C.own i

/-- Failures correspond: by the same fault, with the same trace, for corresponding reasons. -/
def failures : ErrorRel Failure where
  related c failure other := other = failure.rename C.rename ∧ failure.In c ∧ C.fault failure.fault
  escapes failure := C.escape failure.fault

/-- Faults of built-in methods correspond: they are the same but for the numbers of reasons. -/
def nativeFaults : ErrorRel NativeFault where
  related c fault other := other = fault.rename C.rename ∧ fault.In c ∧
    ∀ failure, fault = .failure failure → C.fault failure.fault
  escapes fault := ∃ failure, fault = .failure failure ∧ C.escape failure.fault

variable {ε α β γ δ : Type}

/-- Two actions that began in `s` and `t` end alike. -/
inductive Ends (E : ErrorRel ε) (c : Census) (s t : Session) (Q : Census → α → β → Prop) :
    Outcome ε α → Outcome ε β → Prop where
  | done {d s' t' x y} :
    c.Le d → C.Pair d s' t' → s.SameStacks s' → t.SameStacks t' → Q d x y →
    Ends E c s t Q (.done x s') (.done y t')
  | failed {d s' t' e f} :
    c.Le d → C.Pair d s' t' → s.SameStacks s' → t.SameStacks t' → E.related d e f →
    Ends E c s t Q (.failed e s') (.failed f t')
  | exhausted : C.tires → Ends E c s t Q .exhausted .exhausted
  | escaped {e s' o} : s.SameStacks s' → E.escapes e → Ends E c s t Q (.failed e s') o

/-- From corresponding sessions, two actions end alike. -/
def Sim (E : ErrorRel ε) (c : Census) (Q : Census → α → β → Prop) (a : Action ε α)
    (b : Action ε β) : Prop :=
  ∀ s t, C.Pair c s t → C.Ends E c s t Q (a s) (b t)

/-! ## Corresponding results -/

/-- The same result, whatever the census. -/
def Same (_ : Census) (x y : α) : Prop := y = x

/-- Related results, or none. -/
abbrev Maybe (R : Census → α → β → Prop) (c : Census) : Option α → Option β → Prop :=
  Option.Rel (R c)

/-- Corresponding values. -/
def Info (c : Census) (x y : Justified) : Prop := y = x.rename C.rename ∧ x.In c

/-- Corresponding values, the reasons of which are the runs' own. -/
def Made (c : Census) (x y : Justified) : Prop :=
  y = x.rename C.rename ∧ x.In c ∧ C.Owned c x.why

/-- Corresponding lists of values. -/
def Infos (c : Census) (xs ys : List Justified) : Prop :=
  ys = xs.map (Justified.rename C.rename) ∧ Justified.AllIn c xs

/-- Corresponding flows. -/
def Flows (c : Census) (x y : Flow) : Prop := y = x.rename C.rename ∧ x.In c

/-- Corresponding reasons that are the runs' own. -/
def Own (c : Census) (i j : ReasonId) : Prop := j = C.rename i ∧ C.Owned c i

/-- Corresponding built-in states. -/
def Handles (c : Census) (x y : Handle) : Prop := y = x.rename C.rename ∧ x.In c

variable {C} {E : ErrorRel ε} {c : Census} {s t : Session} {P : Census → α → β → Prop}
  {Q : Census → γ → δ → Prop}

/-- A reason of the run's own stays so. -/
lemma Owned.mono {d : Census} {i : ReasonId} (le : c.Le d) (h : C.Owned c i) : C.Owned d i :=
  ⟨le.reason h.reason, h.own⟩

/-! ## Rules for the shape of actions -/

/-- What ends alike from later sessions ends alike from the first ones. -/
lemma Ends.of_later {d : Census} {s' t' : Session} {o : Outcome ε α} {o' : Outcome ε β}
    (le : c.Le d) (ks : s.SameStacks s') (kt : t.SameStacks t')
    (h : C.Ends E d s' t' P o o') : C.Ends E c s t P o o' := by
  cases h with
  | done le1 pair ks' kt' q => exact .done (le.trans le1) pair (ks.trans ks') (kt.trans kt') q
  | failed le1 pair ks' kt' e => exact .failed (le.trans le1) pair (ks.trans ks') (kt.trans kt') e
  | exhausted h => exact .exhausted h
  | escaped ks' h => exact .escaped (ks.trans ks') h

/-- Less may be said of the results. -/
lemma Ends.weaken {R : Census → α → β → Prop} {o : Outcome ε α} {o' : Outcome ε β}
    (h : C.Ends E c s t P o o') (weaker : ∀ {d x y}, P d x y → R d x y) :
    C.Ends E c s t R o o' := by
  cases h with
  | done le pair ks kt p => exact .done le pair ks kt (weaker p)
  | failed le pair ks kt e => exact .failed le pair ks kt e
  | exhausted h => exact .exhausted h
  | escaped ks h => exact .escaped ks h

/-- What ends alike by one comparison does so by another that asks no more of the sessions. -/
lemma Ends.transfer {D : Comparison} {o : Outcome ε α} {o' : Outcome ε β}
    (h : C.Ends E c s t P o o') (pair : ∀ {d s t}, C.Pair d s t → D.Pair d s t)
    (tires : C.tires → D.tires) : D.Ends E c s t P o o' := by
  cases h with
  | done le before ks kt p => exact .done le (pair before) ks kt p
  | failed le before ks kt e => exact .failed le (pair before) ks kt e
  | exhausted h => exact .exhausted (tires h)
  | escaped ks h => exact .escaped ks h

/-- Actions that match also match for less exact results. -/
lemma Sim.weaken {R : Census → α → β → Prop} {a : Action ε α} {b : Action ε β}
    (h : C.Sim E c P a b) (weaker : ∀ {d x y}, P d x y → R d x y) : C.Sim E c R a b :=
  fun s t pair => (h s t pair).weaken weaker

/-- Whose reason a value has need not be known. -/
lemma Sim.forget {a b : Action ε Justified} (h : C.Sim E c C.Made a b) : C.Sim E c C.Info a b :=
  h.weaken fun made => ⟨made.1, made.2.1⟩

/-- Corresponding results match. -/
lemma Sim.pure {x : α} {y : β} (h : P c x y) : C.Sim E c P (Pure.pure x) (Pure.pure y) :=
  fun s t pair => .done (.refl c) pair (.refl s) (.refl t) h

/-- If two actions end alike, what follows them has to match only from where they have ended. -/
lemma Ends.bind {a : Action ε α} {b : Action ε β} {f : α → Action ε γ} {g : β → Action ε δ}
    (first : C.Ends E c s t P (a s) (b t))
    (next : ∀ d x y, c.Le d → P d x y → C.Sim E d Q (f x) (g y)) :
    C.Ends E c s t Q ((a >>= f) s) ((b >>= g) t) := by
  simp only [Bind.bind]
  -- The second action is compared only from where the first one has ended.
  generalize a s = o, b t = o' at first
  cases first with
  | done le pair' ks kt p => exact .of_later le ks kt (next _ _ _ le p _ _ pair')
  | failed le pair' ks kt e => exact .failed le pair' ks kt e
  | exhausted h => exact .exhausted h
  | escaped ks h => exact .escaped ks h

/-- Actions in sequence match if the first ones do, and what follows corresponding results does. -/
lemma Sim.bind {a : Action ε α} {b : Action ε β} {f : α → Action ε γ} {g : β → Action ε δ}
    (first : C.Sim E c P a b)
    (next : ∀ d x y, c.Le d → P d x y → C.Sim E d Q (f x) (g y)) :
    C.Sim E c Q (a >>= f) (b >>= g) :=
  fun s t pair => (first s t pair).bind next

/-- What follows two equal results may take them for one. -/
lemma Sim.bind_same {a b : Action ε α} {f : α → Action ε γ} {g : α → Action ε δ}
    (first : C.Sim E c Same a b) (next : ∀ d x, c.Le d → C.Sim E d Q (f x) (g x)) :
    C.Sim E c Q (a >>= f) (b >>= g) := by
  apply first.bind
  intro d x y le same
  obtain rfl := same
  exact next d _ le

/-- What follows a result and its translation may rely on all that is known of the result. -/
lemma Sim.bind_known {r : α → β} {known : Census → α → Prop} {a : Action ε α} {b : Action ε β}
    {f : α → Action ε γ} {g : β → Action ε δ}
    (first : C.Sim E c (fun d x y => y = r x ∧ known d x) a b)
    (next : ∀ d x, c.Le d → known d x → C.Sim E d Q (f x) (g (r x))) :
    C.Sim E c Q (a >>= f) (b >>= g) := by
  apply first.bind
  intro d x y le related
  obtain ⟨rfl, h⟩ := related
  exact next d x le h

/-- Failing by related errors matches. -/
lemma Sim.fail {e f : ε} (h : E.related c e f) :
    C.Sim E c P (Action.fail e) (Action.fail f) :=
  fun s t pair => .failed (.refl c) pair (.refl s) (.refl t) h

/-- Giving up matches itself, if both runs may run out of steps. -/
lemma Sim.giveUp (h : C.tires) : C.Sim E c P Action.giveUp Action.giveUp :=
  fun _ _ _ => .exhausted h

/-- Questions match if corresponding sessions answer them alike. -/
lemma Sim.ask {f : Session → α} {g : Session → β}
    (h : ∀ {s t}, C.Pair c s t → P c (f s) (g t)) : C.Sim E c P (Action.ask f) (Action.ask g) :=
  fun s t pair => .done (.refl c) pair (.refl s) (.refl t) (h pair)

/-- Work for each item of a list matches itself, if it does so at every later census. -/
lemma Sim.forM {items : List γ} {f g : γ → Action ε PUnit}
    (h : ∀ d x, c.Le d → C.Sim E d Same (f x) (g x)) :
    C.Sim E c Same (items.forM f) (items.forM g) := by
  induction items generalizing c with
  | nil => exact .pure rfl
  | cons x rest ih =>
    apply Sim.bind (h c x (.refl c))
    intro d _ _ le _
    exact ih fun e x later => h e x (le.trans later)

/-- A question is answered by the session of the moment. -/
lemma Ends.ask {x : Session → α} {y : Session → β} {f : α → Action ε γ} {g : β → Action ε δ}
    (h : C.Ends E c s t Q (f (x s) s) (g (y t) t)) :
    C.Ends E c s t Q ((Action.ask x >>= f) s) ((Action.ask y >>= g) t) := h

/-- Actions match also if their errors are reported differently, as long as related ones stay
related. -/
lemma Sim.mapError {φ : Type} {F : ErrorRel φ} {r r' : ε → φ} {a : Action ε α} {b : Action ε β}
    (h : C.Sim E c P a b) (related : ∀ {d e f}, c.Le d → E.related d e f → F.related d (r e) (r' f))
    (escapes : ∀ {e}, E.escapes e → F.escapes (r e)) :
    C.Sim F c P (a.mapError r) (b.mapError r') := by
  intro s t pair
  have ends := h s t pair
  simp only [Action.mapError]
  generalize a s = o, b t = o' at ends
  cases ends with
  | done le pair' ks kt p => exact .done le pair' ks kt p
  | failed le pair' ks kt e => exact .failed le pair' ks kt (related le e)
  | exhausted h => exact .exhausted h
  | escaped ks h => exact .escaped ks (escapes h)

/-- A step that always succeeds, and changes the sessions without touching the stacks. -/
lemma Sim.step {x : Session → α} {y : Session → β} {u v : Session → Session}
    (h : ∀ {s t}, C.Pair c s t →
      ∃ d, c.Le d ∧ C.Pair d (u s) (v t) ∧ s.SameStacks (u s) ∧ t.SameStacks (v t) ∧
        P d (x s) (y t)) :
    C.Sim E c P (fun s => .done (x s) (u s)) (fun t => .done (y t) (v t)) := by
  intro s t pair
  obtain ⟨d, le, pair', ks, kt, p⟩ := h pair
  exact .done le pair' ks kt p

/-! ## Fewer programs -/

/-- The same comparison of fewer programs: whether they may run out of steps, whether they may look
at reasons, and what the bodies of their functions may be. -/
def restrict (C : Comparison) (tires shows : Prop) (body : Stmt → Prop) : Comparison :=
  { C with tires, shows, body }

variable {tires shows : Prop} {body : Stmt → Prop}

/-- Sessions correspond for fewer programs if the bodies of their functions are among these. -/
lemma Pair.restrict (h : C.Pair c s t)
    (bodies : ∀ function ∈ s.functions, ∀ stmt ∈ function.body, body stmt) :
    (C.restrict tires shows body).Pair c s t :=
  { h with bodies := bodies }

/-- Sessions that correspond for fewer programs correspond. -/
lemma Pair.unrestrict (h : (C.restrict tires shows body).Pair c s t)
    (hb : ∀ stmt, body stmt → C.body stmt) : C.Pair c s t :=
  { h with bodies := fun function mem stmt inside => hb stmt (h.bodies function mem stmt inside) }

/-- Actions that end alike for fewer programs end alike. -/
lemma Ends.unrestrict {o : Outcome ε α} {o' : Outcome ε β}
    (h : (C.restrict tires shows body).Ends E c s t P o o') (ht : tires → C.tires)
    (hb : ∀ stmt, body stmt → C.body stmt) : C.Ends E c s t P o o' :=
  h.transfer (fun pair => pair.unrestrict hb) ht

end Comparison

end Because
