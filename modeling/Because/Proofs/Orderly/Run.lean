import Because.Proofs.Moments
import Because.Proofs.Orderly.Stmt

/-!
# Runs in orderly sessions

The rules tied together: whatever number of steps a run may take, it keeps its session orderly, and
what holds by a regime holds at every moment of it. So sessions are orderly at every moment of
every run in a session that can come about, from the first one, which knows the built-in classes.
-/

namespace Because

open Session Comparison

namespace Regime

variable {R : Regime} {inner : Inner} {s : Session} {v : List ScopeId} {why : ReasonId}
  {ok : Moment → Session → Prop} {alarm : Failure} {steps : Nat}

/-! ## Moments -/

/-- What is known at a moment under a regime. -/
def Knows (R : Regime) (now : Session) : Moment → Prop
  | .evaluating _ _ => True
  | .executing stmt _ => stmt.Tidy R.names
  | .calling f args _ => Nat.lt f now.functions.size ∧ Justified.AllFit now args ∧
    R.ready now f args
  | .evaluated result => result.value.Fits now
  | .executed flow => flow.Fits now
  | .failed failure => failure.Calm

/-- A moment as a regime sees it. -/
structure Sees (R : Regime) (moment : Moment) (now : Session) : Prop where
  good : R.Good now
  knows : R.Knows now moment

/-- An action that passes the checks when it begins and when it ends may be watched. -/
lemma Leads.watchEnds {α : Type} {P : α → Session → Prop} {before : Moment} {after : α → Moment}
    {action : Eval α} (h : R.Leads v Failure.Calm P s (action s)) (first : ok before s)
    (last : ∀ {x now}, R.Good now → P x now → ok (after x) now)
    (failed : ∀ {failure now}, R.Good now → failure.Calm → ok (.failed failure) now) :
    R.Leads v Failure.Calm P s (Because.watch ok alarm before after action s) := by
  unfold Because.watch
  rw [if_pos first]
  generalize action s = o at h
  cases h with
  | done good later p =>
    dsimp only
    rw [if_pos (last good p)]
    exact .done good later p
  | failed good later calm =>
    dsimp only
    rw [if_pos (failed good calm)]
    exact .failed good later calm
  | exhausted => exact .exhausted

/-- What passes all checks may be watched. -/
lemma Leads.watch {α : Type} {P : α → Session → Prop} {before : Moment} {after : α → Moment}
    {action : Eval α} (h : R.Leads v Failure.Calm P s (action s))
    (passes : ∀ {moment now}, R.Sees moment now → ok moment now) (first : R.Sees before s)
    (last : ∀ {x now}, P x now → R.Knows now (after x)) :
    R.Leads v Failure.Calm P s (Because.watch ok alarm before after action s) :=
  h.watchEnds (passes first) (fun good p => passes ⟨good, last p⟩) fun good calm =>
    passes ⟨good, calm⟩

end Regime

/-! ## Ways to run -/

namespace Inner.Regular

variable {R : Regime} {inner : Inner} {ok : Moment → Session → Prop} {alarm : Failure}

/-- A watch that passes all that the regime sees makes no difference. -/
lemma watched (h : inner.Regular R) (passes : ∀ {moment now}, R.Sees moment now → ok moment now) :
    (inner.watched ok alarm).Regular R where
  eval expr why good := (h.eval expr why good).watch passes ⟨good, trivial⟩ id
  exec why tidy good := (h.exec why tidy good).watch passes ⟨good, tidy⟩ id
  call why good lt fit ready :=
    (h.call why good lt fit ready).watch passes ⟨good, lt, fit, ready⟩ id

/-- What runs as it should when nothing else is asked does so under any regime that holds from the
beginning. -/
lemma regain (h : inner.Regular (.plain R.names)) : inner.Regular R where
  eval expr why good := .regain good (h.eval expr why ⟨good.orderly, trivial⟩)
  exec why tidy good := .regain good (h.exec why tidy ⟨good.orderly, trivial⟩)
  call why good lt fit _ := .regain good (h.call why ⟨good.orderly, trivial⟩ lt fit trivial)

/-- Without steps nothing runs that should not. -/
lemma spent : Inner.spent.Regular R where
  eval _ _ _ := .exhausted
  exec _ _ _ := .exhausted
  call _ _ _ _ _ := .exhausted

/-- One step more, under a regime for calls of `super` and for bodies. -/
lemma next (h : inner.Regular R) (supers : R.Supers) (bodies : R.Bodies) :
    inner.next.Regular R where
  eval expr _ good := Regime.evalExpr_leads h good expr fun _ => supers
  exec _ tidy good := Regime.execStmt_leads h good tidy
  call _ good lt fit ready := Regime.callFunction_leads h bodies good lt fit ready

/-- Any number of steps runs as it should. -/
lemma within (supers : R.Supers) (bodies : R.Bodies) (steps : Nat) :
    (Inner.within steps).Regular R := by
  induction steps with
  | zero => exact spent
  | succ steps ih => exact ih.next supers bodies

/-- A watched run runs as it should, if the watch passes all that the regime sees. -/
lemma watchedWithin (supers : R.Supers) (bodies : R.Bodies)
    (passes : ∀ {moment now}, R.Sees moment now → ok moment now) (steps : Nat) :
    (Inner.watchedWithin ok alarm steps).Regular R := by
  induction steps with
  | zero => exact spent
  | succ steps ih => exact (ih.next supers bodies).watched passes

end Inner.Regular

namespace Regime

variable {R : Regime} {names : String → Prop} {inner : Inner} {s : Session}
  {ok : Moment → Session → Prop} {alarm : Failure} {steps : Nat} {why : ReasonId}

/-- Nothing else is asked of calls on `super`. -/
lemma plain_supers : (plain names).Supers := fun _ _ => trivial

/-- Nothing else is asked of bodies that start. -/
lemma plain_bodies : (plain names).Bodies := fun _ _ _ _ _ _ _ => trivial

/-- Any number of steps runs as it should if nothing else is asked. -/
lemma plain_within (steps : Nat) : (Inner.within steps).Regular (plain names) :=
  .within plain_supers plain_bodies steps

/-- While a body is watched, the regime of the body need not hold in what it calls. -/
lemma watchedBody_regular (supers : R.Supers)
    (passes : ∀ {moment now}, R.Sees moment now → ok moment now) (steps : Nat) :
    (Inner.watchedBody ok alarm steps).Regular R := by
  induction steps with
  | zero => exact .spent
  | succ steps ih =>
    have unwatched : (Inner.within (steps + 1)).Regular R := (plain_within (steps + 1)).regain
    exact {
      eval expr why good :=
        (evalExpr_leads ih good expr fun _ => supers).watch passes ⟨good, trivial⟩ id
      exec why tidy good := (execStmt_leads ih good tidy).watch passes ⟨good, tidy⟩ id
      call := unwatched.call }

/-- A tidy program runs as it should. -/
lemma runProgram_leads (h : inner.Regular R) (good : R.Good s) {program : Program}
    (tidy : ∀ stmt ∈ program, stmt.Tidy R.names) :
    R.Leads s.visible Failure.Calm Any s (runProgram inner program s) := by
  induction program generalizing s with
  | nil => exact .pure good trivial
  | cons stmt rest ih =>
    obtain ⟨first, others⟩ := List.forall_mem_cons.1 tidy
    refine .bind good (.text good _) fun why s1 good1 later1 _ => ?_
    rw [← later1.visible good.orderly good1.orderly]
    refine .bind good1 (h.exec why first good1) fun flow s2 good2 later2 _ => ?_
    cases flow with
    | normal =>
      rw [← later2.visible good1.orderly good2.orderly]
      exact ih good2 others
    | returned result => exact .pure good2 trivial

/-- An action that leads somewhere does not fail as if it were interrupted. -/
lemma Leads.unheard {α : Type} {P : α → Session → Prop} {v : List ScopeId} {o : Outcome Failure α}
    (h : R.Leads v Failure.Calm P s o) (failure : Failure) (s' : Session)
    (fails : o = .failed failure s') : failure.fault ≠ idleFault := by
  rw [fails] at h
  cases h with
  | failed _ _ calm => exact calm

/-- What an action leaves behind is a good session. -/
lemma Leads.left {α : Type} {P : α → Session → Prop} {v : List ScopeId} {o : Outcome Failure α}
    (h : R.Leads v Failure.Calm P s o) {s' : Session} (left : o.session? = some s') :
    R.Good s' ∧ s.Later (places R.names v) s' := by
  cases h with
  | done good later _ | failed good later _ =>
    cases left
    exact ⟨good, later⟩
  | exhausted => cases left

/-- What holds by a regime holds at every moment of a run. -/
lemma during_run (supers : R.Supers) (bodies : R.Bodies) (good : R.Good s) {program : Program}
    (tidy : ∀ stmt ∈ program, stmt.Tidy R.names)
    (passes : ∀ {moment now}, R.Sees moment now → ok moment now) :
    s.Throughout steps program ok :=
  (steady_runProgram program).during
    (runProgram_leads (.watchedWithin supers bodies passes steps) good tidy).unheard

/-- What holds by a regime holds at every moment of a call that it is ready for. -/
lemma during_call (supers : R.Supers) (bodies : R.Bodies) (orderly : s.Orderly R.names) {f : Nat}
    {args : List Justified} (lt : f < s.functions.size) (fit : Justified.AllFit s args)
    (ready : R.ready s f args) (passes : ∀ {moment now}, R.Sees moment now → ok moment now) :
    s.During steps (callFunction · f args why) ok :=
  (steady_callFunction f args why).during
    (callFunction_plain (.watchedWithin supers bodies passes steps) orderly
      (bodies orderly lt ready) lt fit).unheard

/-- What holds by a regime that holds when a body starts holds at every moment of the body. -/
lemma inBody_call (supers : R.Supers) (orderly : s.Orderly R.names) {f : Nat}
    {args : List Justified} (starts : R.Starts s f args) (lt : f < s.functions.size)
    (fit : Justified.AllFit s args) (passes : ∀ {moment now}, R.Sees moment now → ok moment now) :
    s.InBody steps (callFunction · f args why) ok :=
  (steady_callFunction f args why).inBody
    (callFunction_plain (watchedBody_regular supers passes steps) orderly starts lt fit).unheard

/-! ## The first session -/

/-- A built-in class gets its methods one after the other. -/
lemma declareBuiltinMethods_leads (good : R.Good s) {now : Session} (orderly : now.Orderly R.names)
    {v : List ScopeId} (later : s.Later (places R.names v) now) {id : Nat}
    (newest : id + 1 = now.classes.size) (new : s.scopes.size ≤ (now.classAt id).implScope)
    {builtin : Builtin} (isBuiltin : (now.classAt id).builtin = some builtin)
    {methods : List (String × List String)} (among : ∀ method ∈ methods, method ∈ builtin.methods) :
    R.Leads v Failure.Calm Any s
      ((methods.forM fun method =>
        declareBuiltinMethod id (now.classAt id).implScope method.1 method.2) now) := by
  induction methods generalizing now with
  | nil => exact .done (good.later orderly later) later trivial
  | cons method rest ih =>
    obtain ⟨first, others⟩ := List.forall_mem_cons.1 among
    obtain ⟨name, params⟩ := method
    have tidy : (Builtin.function id name params).Tidy R.names := by
      refine ⟨fun stmt mem => ?_, fun _ => .inl rfl⟩
      rw [List.mem_singleton.1 mem]
      exact .intro trivial (fun _ none => absurd none List.not_mem_nil)
        fun _ none => absurd none List.not_mem_nil
    have wires : now.Wires (Builtin.function id name params) := by
      rintro _ builtin' ⟨⟩ isBuiltin'
      cases isBuiltin.symm.trans isBuiltin'
      exact ⟨_, first, rfl⟩
    refine .bindFrom (addMethod_leads good orderly later newest new tidy rfl wires name
      (.tell trivial)) ?_
    rintro _ s1 good1 later1 ⟨size, same⟩
    have impl : (s1.classAt id).implScope = (now.classAt id).implScope := by rw [same]
    have rest := ih good1.orderly later1 size (Nat.le_trans new (Nat.le_of_eq impl.symm))
      (by rw [same]; exact isBuiltin) others
    rw [impl] at rest
    exact rest

/-- A built-in class is declared as it should be. -/
lemma declareBuiltin_leads (good : R.Good s) {v : List ScopeId} (builtin : Builtin) :
    R.Leads v Failure.Calm Any s (declareBuiltin builtin s) := by
  let scope : Scope := { parent := some globalScope, description := builtin.name }
  let classDef : ClassDef :=
    { name := builtin.name, parent := none, fields := [], implScope := s.scopes.size,
      methods := [], builtin := some builtin, nativeBase := some s.classes.size }
  have orderly : (s.withClass scope classDef).Orderly R.names :=
    good.orderly.withClass rfl rfl rfl good.orderly.global.made rfl nofun rfl (fun _ => rfl)
      fun _ => rfl
  have makes : s.Change (s.withClass scope classDef) :=
    .makeClass rfl nofun fun _ self => Nat.le_of_eq (Option.some.inj self).symm
  have course : s.Course { s.withClass scope classDef with
      graph := s.graph.push (.text s!"{builtin.name} is a built-in class") [] none } :=
    .tail (.single makes) (.tell trivial)
  refine nameClass_leads good orderly rfl builtin.name course fun orderly1 later size same => ?_
  have new := Nat.le_of_eq (congrArg ClassDef.implScope same).symm
  have methods := declareBuiltinMethods_leads good orderly1 later size new
    (congrArg ClassDef.builtin same) fun _ mem => mem
  rw [same] at methods
  exact methods

end Regime

namespace Session

variable {names : String → Prop}

/-- A session that knows nothing is orderly. -/
lemma blank_orderly (config : Config) (console : Console) :
    (blank config console).Orderly names := by
  have global : (blank config console).Ordinary globalScope :=
    ⟨Nat.zero_lt_one, rfl, fun ⟨_, lt, _⟩ => absurd lt (Nat.not_lt_zero _)⟩
  have bare (i : ScopeId) : ((blank config console).scopes.scopeAt i).bindings = [] ∧
      ((blank config console).scopes.scopeAt i).tag = none ∧
      (blank config console).scopes.parent? i = none := by
    cases i <;> exact ⟨rfl, rfl, rfl⟩
  refine ⟨blank_rooted config console, global, ?_, ?_, ?_, ?_, ?_, ?_, ?_, ?_, ?_, ?_⟩
  · exact fun i lt _ => Nat.lt_one_iff.1 lt
  · intro i p _ parent
    cases (bare i).2.2.symm.trans parent
  · intro i mem
    exact List.mem_singleton.1 mem ▸ global
  · intro i name info _ bound
    rw [Scopes.local?, (bare i).1] at bound
    cases bound
  · intro i tag handle tagged
    cases (bare i).2.1.symm.trans tagged
  · exact fun id lt => absurd lt (Nat.not_lt_zero _)
  · exact fun id _ lt => absurd lt (Nat.not_lt_zero _)
  · exact fun frame none => absurd none List.not_mem_nil
  · exact fun f _ lt => absurd lt (Nat.not_lt_zero _)
  · exact fun f lt => absurd lt (Nat.not_lt_zero _)

/-- A new session comes out of one that knows nothing. -/
lemma start_leads (R : Regime) {config : Config} {console : Console}
    (holds : R.holds (blank config console)) : R.Good (start config console) ∧
      (blank config console).Later (places R.names []) (start config console) := by
  have declares (builtins : List Builtin) {s : Session} (good : R.Good s) :
      R.Leads [] Failure.Calm Any s (builtins.forM declareBuiltin s) := by
    induction builtins generalizing s with
    | nil => exact .pure good trivial
    | cons builtin rest ih =>
      exact .bind good (Regime.declareBuiltin_leads good builtin) fun _ _ good _ _ => ih good
  have good : R.Good (blank config console) := ⟨blank_orderly config console, holds⟩
  have leads := declares Builtin.all good
  rw [start_eq]
  generalize Builtin.all.forM declareBuiltin (blank config console) = o at leads
  cases left : o.session? with
  | none => exact ⟨good, .refl _ _⟩
  | some s => exact leads.left left

/-- A new session is orderly, and its functions bind nothing. -/
lemma start_orderly (config : Config) (console : Console) :
    (start config console).Orderly names :=
  (start_leads (.plain names) trivial).1.orderly

/-- Orderly, whatever names programs may bind. -/
abbrev InOrder (s : Session) : Prop := s.Orderly fun _ => True

/-- A session that is in order is good if nothing else is asked. -/
lemma InOrder.good {s : Session} (h : s.InOrder) : (Regime.plain fun _ => True).Good s :=
  ⟨h, trivial⟩

/-- In sessions that can come about, everything is what it seems to be. -/
lemma Reachable.inOrder {s : Session} (h : s.Reachable) : s.InOrder := by
  induction h with
  | start config console => exact start_orderly config console
  | run _ leads ih =>
    obtain ⟨steps, program, left⟩ := leads
    have ends := Regime.runProgram_leads (Regime.plain_within steps) ih.good
      (program.tidy_all fun _ => trivial)
    exact (ends.left left).1.orderly

end Session

/-- What is in flight at a moment fits. -/
def Moment.Fits (now : Session) : Moment → Prop
  | .calling f args _ => Nat.lt f now.functions.size ∧ Justified.AllFit now args
  | .evaluated result => result.value.Fits now
  | .executed flow => flow.Fits now
  | _ => True

/-- What is in flight at a moment that a regime sees fits. -/
lemma Regime.Sees.fits {R : Regime} {moment : Moment} {now : Session} (h : R.Sees moment now) :
    moment.Fits now := by
  obtain ⟨-, knows⟩ := h
  cases moment with
  | calling => exact ⟨knows.1, knows.2.1⟩
  | evaluated | executed => exact knows
  | _ => trivial

/-- In sessions that can come about, everything is what it seems to be at every moment of a run,
also what is in flight. -/
lemma Session.Reachable.throughout {s : Session} (h : s.Reachable) (steps : Nat)
    (program : Program) {ok : Moment → Session → Prop}
    (passes : ∀ {moment now}, now.InOrder → moment.Fits now → ok moment now) :
    s.Throughout steps program ok :=
  Regime.during_run Regime.plain_supers Regime.plain_bodies h.inOrder.good
    (program.tidy_all fun _ => trivial) fun sees => passes sees.good.orderly sees.fits

/-- In every session that can come about, all walks end at every moment of a run. -/
lemma Session.Reachable.rooted_throughout {s : Session} (h : s.Reachable) (steps : Nat)
    (program : Program) : s.Throughout steps program fun _ now => now.Rooted :=
  h.throughout steps program fun inOrder _ => inOrder.rooted

end Because
