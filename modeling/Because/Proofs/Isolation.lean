import Because.Proofs.Orderly.Run
import Because.Proofs.Probes

/-!
# Calls are isolated from their callers

Whatever a call does, and however it ends, the local variables of those who called it are what they
were: a body sees only scopes that are newer than its call, and the global one. An assignment finds
its variable among the visible scopes, and so never lands in an object or among the methods of a
class.
-/

namespace Because

open Session

namespace Session

variable {α : Type}

/-- However the action ends, all is in order again, and the older scopes that are neither the global
one nor objects bind what they have bound. -/
def Isolates (s : Session) (action : Eval α) : Prop :=
  ∀ s', (action s).session? = some s' → s'.InOrder ∧
    ∀ i : Nat, i < s.scopes.size → i ≠ globalScope → (s.scopes.scopeAt i).tag = none →
      (s'.scopes.scopeAt i).bindings = (s.scopes.scopeAt i).bindings

/-- Of the scopes in which variables are sought, the last one is the global one, and all others have
been made since there were `n` scopes. -/
def SeesSince (n : Nat) (s : Session) : Prop :=
  ∃ below, s.visible = below ++ [globalScope] ∧ ∀ i ∈ below, n ≤ i

/-- However the action ends, objects and the scopes that hold methods are what they were. -/
def SparesObjects (s : Session) (action : Eval α) : Prop :=
  ∀ s', (action s).session? = some s' → ∀ i : Nat,
    (s.scopes.scopeAt i).tag.isSome ∨ s.IsImpl i → s'.scopes.scopeAt i = s.scopes.scopeAt i

/-- Nothing that a call does outside of the global scope and of objects stays. -/
lemma isolates_of_leads {s : Session} {action : Eval α} {P : α → Session → Prop}
    (h : (Regime.plain fun _ => True).Leads [] Failure.Calm P s (action s)) :
    s.Isolates action := by
  intro s' left
  obtain ⟨good, later⟩ := h.left left
  refine ⟨good.orderly, fun i lt other untagged => ?_⟩
  refine later.grows.spared i lt untagged fun name opens => ?_
  exact opens.elim other fun none => absurd none.1 List.not_mem_nil

end Session

namespace Regime

/-- Bodies see what has been made since there were `n` scopes, and the global scope. -/
def since (n : Nat) : Regime where
  names _ := True
  holds s := n ≤ s.scopes.size ∧ s.SeesSince n
  ready s _ _ := n ≤ s.scopes.size
  lasts orderly orderly' holds later := by
    refine ⟨Nat.le_trans holds.1 later.grows.scopes, ?_⟩
    unfold SeesSince
    rw [later.visible orderly orderly']
    exact holds.2
  block {s} description orderly holds := by
    have good : (plain fun _ => True).Good s := ⟨orderly, trivial⟩
    obtain ⟨le, below, eq, all⟩ := holds
    refine ⟨Nat.le_trans le (withScope_grows (o := fun _ _ => False) s _).scopes,
      s.scopes.size :: below, ?_, List.forall_mem_cons.2 ⟨le, all⟩⟩
    rw [good.visible_inBlock, eq, List.cons_append]
  receives _ holds _ _ := holds.1

/-- Bodies that see only what is newer know what they may call on `super`. -/
lemma since_supers (n : Nat) : (since n).Supers := fun _ made => made.good.holds.1

/-- The body of a call sees the scope of the call, which is new, and the global scope. -/
lemma since_bodies (n : Nat) : (since n).Bodies := by
  intro s f args orderly lt ready now orderly' counts begun
  refine ⟨Nat.le_trans ready begun.grows.scopes, [s.scopes.size], begun.visible orderly', ?_⟩
  exact fun i mem => List.mem_singleton.1 mem ▸ ready

end Regime

/-! ## Writes to variables -/

namespace Session

variable {s : Session}

/-- Binding a variable of one scope leaves the others alone. -/
lemma scopeAt_bind_ne {i j : ScopeId} (ne : i ≠ j) (name : String) (info : Justified) :
    (s.scopes.bind i name info).scopeAt j = s.scopes.scopeAt j := by
  rw [Scopes.bind, Scopes.scopeAt_update, if_neg fun same => ne same.1]

/-- Ordinary scopes are no objects, and do not hold the methods of classes. -/
lemma Ordinary.ne {i j : ScopeId} (ordinary : s.Ordinary i)
    (special : (s.scopes.scopeAt j).tag.isSome ∨ s.IsImpl j) : i ≠ j := by
  rintro rfl
  obtain tagged | impl := special
  · rw [ordinary.untagged] at tagged
    cases tagged
  · exact ordinary.noImpl impl

namespace InOrder

variable (h : s.InOrder)

include h

/-- An assignment spares objects. -/
lemma assign_spares (name : String) (info : Justified) :
    s.SparesObjects (Action.assign s.currentScope name info) := by
  intro s' left i special
  unfold Action.assign Scopes.assign at left
  cases found : s.scopes.tryFind s.currentScope name with
  | none =>
    rw [found] at left
    cases left
    rfl
  | some owner =>
    rw [found] at left
    cases left
    have mem : owner ∈ s.visible := List.mem_of_find?_eq_some found
    exact scopeAt_bind_ne ((h.visible_ordinary owner mem).ne special) name info

/-- A declaration spares objects. -/
lemma declare_spares (name : String) (info : Justified) :
    s.SparesObjects (Action.declare s.currentScope name info) := by
  intro s' left i special
  unfold Action.declare Scopes.declare at left
  cases bound : s.scopes.binds s.currentScope name with
  | true =>
    rw [bound] at left
    cases left
    rfl
  | false =>
    rw [bound] at left
    cases left
    exact scopeAt_bind_ne (h.currentScope.ne special) name info

/-- The write of a value finds its variable among the visible scopes. -/
lemma writeVariable_spares (name : String) (loc : Location) (why : ReasonId)
    (result : Justified) : s.SparesObjects (writeVariable name loc why result) := by
  intro s' left i special
  simp only [writeVariable, Bind.bind, Action.render, Action.ask, Action.full, Action.record,
    Action.currentScope] at left
  cases added : s.graph.add (.full name (s.render result.value) why [result.why])
      [why, result.why] (some loc) with
  | error cause =>
    rw [added] at left
    cases left
    rfl
  | ok recorded =>
    rw [added] at left
    dsimp only at left
    rw [Action.session?_mapError] at left
    have orderly : InOrder { s with graph := recorded.2 } :=
      h.sameStore ⟨rfl, rfl, rfl⟩ h.entered h.frames
    exact orderly.assign_spares name _ s' left i special

/-- Making a variable without a value spares objects. -/
lemma makeVariable_spares (name : String) (why : ReasonId) :
    s.SparesObjects (makeVariable name why) := by
  intro s' left i special
  let told : Session := { s with graph := (s.graph.text "the default variable value is None").2 }
  have orderly : told.InOrder := h.sameStore ⟨rfl, rfl, rfl⟩ h.entered h.frames
  have left : ((Action.declare told.currentScope name (.none s.graph.size)).mapError
      (·.withReason why) told).session? = some s' := left
  rw [Action.session?_mapError] at left
  exact orderly.declare_spares name _ s' left i special

end InOrder

end Session

/-- In sessions that can come about, all is in order at every moment of a run. There calls, of
functions and of methods, and constructions keep all in order and leave all local variables of
others alone, however they end; while a body runs, only scopes that are newer than its call are
visible, and the global one; and what an assignment or a declaration of a variable does, besides the
evaluation of its value, does not touch objects, nor the scopes that hold the methods of classes. -/
theorem calls_isolated {s : Session} (h : s.Reachable) (steps : Nat) (program : Program) :
    (s.Throughout steps program fun moment now => now.InOrder ∧ moment.Fits now) ∧
    ∀ now : Session, now.InOrder →
      (∀ (f : Nat) args why, f < now.functions.size → Justified.AllFit now args →
        now.Isolates (callFunction (.within steps) f args why) ∧
        now.During steps (callFunction · f args why)
          fun _ later => later.SeesSince now.scopes.size) ∧
      (∀ receiver method args why, receiver.value.Fits now → Justified.AllFit now args →
        now.Isolates (callMethod (.within steps) receiver method args why)) ∧
      (∀ className args why, Justified.AllFit now args →
        now.Isolates (newObject (.within steps) className args why)) ∧
      ∀ loc name value why,
        (execStmt (.within steps) (.assign loc name value) why =
          ((eval steps value why >>= writeVariable name loc why) >>= fun _ => return .normal) ∧
        ∀ result later, eval steps value why now = .done result later →
          later.SparesObjects (writeVariable name loc why result)) ∧
        execStmt (.within steps) (.declare loc name value) why =
          ((makeVariable name why >>= fun _ => eval steps value why >>=
            writeVariable name loc why) >>= fun _ => return .normal) ∧
        now.SparesObjects (makeVariable name why) ∧
        ∀ made, makeVariable name why now = .done () made →
          ∀ result later, eval steps value why made = .done result later →
            later.SparesObjects (writeVariable name loc why result) := by
  refine ⟨h.throughout steps program fun inOrder fits => ⟨inOrder, fits⟩, ?_⟩
  intro now inOrder
  have insides : (Inner.within steps).Regular (Regime.plain fun _ => True) :=
    Regime.plain_within steps
  -- Whatever a value has changed, its evaluation leaves all in order.
  have writes {now : Session} (inOrder : now.InOrder) (name loc value why) :
      ∀ result later, eval steps value why now = .done result later →
        later.SparesObjects (writeVariable name loc why result) := by
    intro result later evaluated
    have leads := insides.eval value why inOrder.good
    have left : ((Inner.within steps).eval value why now).session? = some later :=
      congrArg Outcome.session? evaluated
    have inOrder : later.InOrder := (leads.left left).1.orderly
    exact inOrder.writeVariable_spares name loc why result
  refine ⟨?_, ?_, ?_, ?_⟩
  · intro f args why lt fit
    constructor
    · exact isolates_of_leads
        (Regime.callFunction_leads insides Regime.plain_bodies inOrder.good lt fit trivial)
    · exact Regime.during_call (Regime.since_supers _) (Regime.since_bodies _) inOrder lt fit
        (Nat.le_refl _) fun sees => sees.good.holds.2
  · intro receiver method args why fits fit
    exact isolates_of_leads (Regime.callMethod_leads insides inOrder.good fits method fit)
  · intro className args why fit
    exact isolates_of_leads (Regime.newObject_leads insides inOrder.good className fit)
  · intro loc name value why
    refine ⟨⟨execStmt_assign .., writes inOrder name loc value why⟩, execStmt_declare ..,
      inOrder.makeVariable_spares name why, fun made makes => ?_⟩
    have leads : (Regime.plain fun _ => True).Leads now.visible Failure.Calm Any now
        (makeVariable name why now) := Regime.makeVariable_leads inOrder.good trivial
    have left : (makeVariable name why now).session? = some made := congrArg Outcome.session? makes
    exact writes (leads.left left).1.orderly name loc value why

/-- A function with a variable of its own calls another one, which assigns to the global variable of
the same name. -/
def neighbours : Program :=
  [.declare .builtin "x" (.new .builtin "List" []),
    .declareFunction .builtin ⟨"inner", [], [.assign .builtin "x" (.new .builtin "Dict" [])],
      .builtin⟩,
    .declareFunction .builtin ⟨"outer", [],
      [.declare .builtin "x" (.new .builtin "List" []), .effect .builtin (.call .builtin "inner" [])],
      .builtin⟩,
    .effect .builtin (.call .builtin "outer" [])]

/-- Whether a function with a variable of its own is about to call the other one, and the call will
change the global variable. -/
def Moment.callsNeighbour : Moment → Session → Bool
  | .evaluating (.call _ _ []) _, now =>
    now.currentScope ≠ globalScope && 21 < now.functions.size &&
      (now.scopes.local? now.currentScope "x").isSome &&
      (callFunction (.within 12) 21 [] 0 now).session?.any fun later =>
        later.scopes.local? globalScope "x" ≠ now.scopes.local? globalScope "x"
  | _, _ => false

/-- Whether an object is about to be assigned to a variable. -/
def Moment.assignsObject : Moment → Session → Bool
  | .executing (.assign loc name value) why, now =>
    (Because.eval 12 value why now).result?.any fun evaluated =>
      (evaluated.2.handle? evaluated.1.value).isSome &&
        (writeVariable name loc why evaluated.1 evaluated.2).session?.isSome
  | _, _ => false

/-- In a run of the program, the call leaves the variable of the caller as it was, though it changes
the global one, and its body sees nothing of the caller; and the assignment spares the object that it
assigns. -/
theorem calls_isolated_of_neighbours :
    (Session.start {} {}).Reachable ∧
    (∃ moment now info later, (Session.start {} {}).DuringAt 12 (runProgram · neighbours) moment now ∧
      now.scopes.local? now.currentScope "x" = some info ∧
      (callFunction (.within 12) 21 [] 0 now).session? = some later ∧
      later.scopes.local? globalScope "x" ≠ now.scopes.local? globalScope "x" ∧
      later.scopes.local? now.currentScope "x" = some info ∧
      now.During 12 (callFunction · 21 [] 0) fun _ inside => inside.SeesSince now.scopes.size) ∧
    ∃ loc name value why now result later after, (Session.start {} {}).DuringAt 12
        (runProgram · neighbours) (.executing (.assign loc name value) why) now ∧
      eval 12 value why now = .done result later ∧
      (writeVariable name loc why result later).session? = some after ∧
      (later.handle? result.value).isSome ∧
      ∀ i, result.value = .object i → after.scopes.scopeAt i = later.scopes.scopeAt i := by
  have reachable := Reachable.start {} {}
  have runs := Comparison.steady_runProgram neighbours
  obtain ⟨ordered, isolated⟩ := calls_isolated reachable 12 neighbours
  refine ⟨reachable, ?_, ?_⟩
  -- The run is watched by a test that fails at the call from the body: where the watch stops, the
  -- moment has what the test denies.
  · obtain ⟨moment, now, reached, fails⟩ := @exists_duringAt
      (fun moment now => !moment.callsNeighbour now) (.raised "alarm") 12 neighbours
      (.start {} {}) (by decide +kernel)
    obtain ⟨inOrder, -⟩ := runs.of_duringAt ordered reached
    rw [Bool.not_eq_false'] at fails
    unfold Moment.callsNeighbour at fails
    split at fails
    · simp only [Bool.and_eq_true, decide_eq_true_eq, Option.any_eq_true] at fails
      obtain ⟨⟨⟨inside, lt⟩, bound⟩, later, left, changes⟩ := fails
      obtain ⟨info, bound⟩ := Option.isSome_iff_exists.1 bound
      obtain ⟨isolates, sees⟩ := (isolated now inOrder).1 21 [] 0 lt .nil
      have spared := (isolates later left).2 now.currentScope inOrder.currentScope.made inside
        inOrder.currentScope.untagged
      refine ⟨_, now, info, later, reached, bound, left, changes, ?_, sees⟩
      rw [Scopes.local?, spared, ← Scopes.local?, bound]
    · cases fails
  · obtain ⟨moment, now, reached, fails⟩ := @exists_duringAt
      (fun moment now => !moment.assignsObject now) (.raised "alarm") 12 neighbours
      (.start {} {}) (by decide +kernel)
    obtain ⟨inOrder, -⟩ := runs.of_duringAt ordered reached
    rw [Bool.not_eq_false'] at fails
    unfold Moment.assignsObject at fails
    split at fails
    · rename_i loc name value why
      simp only [Bool.and_eq_true, Option.any_eq_true] at fails
      obtain ⟨⟨result, later⟩, evaluated, object, writes⟩ := fails
      obtain ⟨after, writes⟩ := Option.isSome_iff_exists.1 writes
      have evaluated := Outcome.eq_done evaluated
      obtain ⟨-, spares⟩ := ((isolated now inOrder).2.2.2 loc name value why).1
      refine ⟨loc, name, value, why, now, result, later, after, reached, evaluated, writes, object,
        fun i is => ?_⟩
      refine spares result later evaluated after writes i (.inl ?_)
      obtain ⟨handle, found⟩ := Option.isSome_iff_exists.1 object
      obtain ⟨tag, tagged, -⟩ := Option.bind_eq_some_iff.1 found
      rw [is] at tagged
      exact Option.isSome_iff_exists.2 ⟨tag, tagged⟩
    · cases fails

end Because
