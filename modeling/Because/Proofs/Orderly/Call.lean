import Because.Eval.Call
import Because.Proofs.Comparison.Call
import Because.Proofs.Orderly.Logic

/-!
# Calls in orderly sessions

The rules for one node are written against a record of how to run what lies inside; here what lies
inside is known to run as orderly sessions demand. A call prepares a scope of its own for the body
of the function, and whatever the body does there, the older scopes other than the global one that
are no objects are bound to what they were bound to.
-/

namespace Because

open Session

/-- The expressions that lie inside are evaluated as they should be under a regime. -/
structure Inner.Evaluates (R : Regime) (inner : Inner) : Prop where
  eval {s : Session} (expr : Expr) (why : ReasonId) : R.Good s →
    R.Leads [] Failure.Calm Fitting s (inner.eval expr why s)

/-- What lies inside runs as it should under a regime. Calls have to be ready. -/
structure Inner.Regular (R : Regime) (inner : Inner) : Prop extends inner.Evaluates R where
  exec {s : Session} {stmt : Stmt} (why : ReasonId) : stmt.Tidy R.names → R.Good s →
    R.Leads s.visible Failure.Calm FlowFitting s (inner.exec stmt why s)
  call {s : Session} {f : Nat} {args : List Justified} (why : ReasonId) : R.Good s →
    f < s.functions.size → Justified.AllFit s args → R.ready s f args →
    R.Leads [] Failure.Calm Fitting s (inner.call f args why s)

namespace Regime

variable {R : Regime} {inner : Inner} {s : Session} {v : List ScopeId} {why : ReasonId}

/-! ## Lists of nodes -/

/-- Arguments that are evaluated all fit. -/
lemma evalArgs_leads (h : inner.Evaluates R) (good : R.Good s) (args : List Expr) :
    R.Leads [] Failure.Calm AllFitting s (evalArgs inner why args s) := by
  induction args generalizing s with
  | nil => exact .pure good .nil
  | cons arg rest ih =>
    refine .bind good (h.eval arg why good) fun info s1 good later fits => ?_
    refine .bind good (ih good) fun infos s2 good later fit => ?_
    exact .pure good (.cons (fits.grows later.grows) fit)

/-- Statements run as they should, one after the other, if they bind what they may. -/
lemma runStatements_leads (h : inner.Regular R) (good : R.Good s) {stmts : List Stmt}
    (tidy : ∀ stmt ∈ stmts, stmt.Tidy R.names) :
    R.Leads s.visible Failure.Calm FlowFitting s (runStatements inner why stmts s) := by
  induction stmts generalizing s with
  | nil => exact .pure good trivial
  | cons stmt rest ih =>
    obtain ⟨first, others⟩ := List.forall_mem_cons.1 tidy
    refine .bind good (h.exec why first good) fun flow s1 good1 later fits => ?_
    cases flow with
    | normal =>
      rw [← later.visible good.orderly good1.orderly]
      exact ih good1 others
    | returned result => exact .pure good1 fits

/-! ## Variables -/

/-- A variable that is read has the value that the visible scopes bind to it. -/
lemma lookupVariable_leads (good : R.Good s) (name : String) (loc : Location) :
    R.Leads v Failure.Calm
      (fun info now => info.value.Fits now ∧
        ∃ stored, s.scopes.tryGet s.currentScope name = some stored ∧ info.value = stored.value)
      s (lookupVariable name loc why s) := by
  unfold lookupVariable
  refine .ask (.ask ?_)
  cases found : s.scopes.get s.currentScope name with
  | ok stored =>
    have fits := good.orderly.get good.orderly.currentScope.noImpl found
    have bound : s.scopes.tryGet s.currentScope name = some stored := by
      unfold Scopes.get at found
      split at found
      · rename_i e
        cases found
        exact e
      · cases found
    refine .ask (.bind good (.full good ..) fun read s1 good later _ => ?_)
    exact .pure good ⟨fits.grows later.grows, stored, bound, rfl⟩
  | error fault =>
    refine .bind good (.conj good ..) fun failed s1 good _ _ => .because good ?_
    -- Variables that are not there are no matter of arguments.
    rintro name' got rfl
    unfold Scopes.get at found
    split at found <;> cases found

/-! ## Calls -/

/-- What binding parameters in the newest scope does, step by step: whatever the scope binds in the
end it has bound before or is an argument, and if all goes well all arguments are bound. -/
lemma bindParams_withScope (entries : List (String × Justified)) (scope : Scope) :
    ∃ bindings : Bindings,
      (∀ name info, bindings.get? name = some info →
        scope.bindings.get? name = some info ∨ ∃ param, (param, info) ∈ entries) ∧
      ((bindParams s.scopes.size entries (s.withScope scope) =
          .done () (s.withScope { scope with bindings }) ∧
        (∀ name info, scope.bindings.get? name = some info → bindings.get? name = some info) ∧
        ∀ entry ∈ entries, bindings.get? entry.1 = some entry.2) ∨
      ∃ failure, failure.Calm ∧ bindParams s.scopes.size entries (s.withScope scope) =
        .failed failure (s.withScope { scope with bindings })) := by
  induction entries generalizing scope with
  | nil => exact ⟨scope.bindings, fun _ _ bound => .inl bound, .inl ⟨rfl, fun _ _ h => h, nofun⟩⟩
  | cons entry rest ih =>
    obtain ⟨param, arg⟩ := entry
    have first : Action.declare s.scopes.size param arg (s.withScope scope) =
        if scope.bindings.contains param then
          .failed (.of (.duplicateDeclaration param scope.description)) (s.withScope scope)
        else .done () (s.withScope { scope with bindings := scope.bindings.insert param arg }) := by
      simp only [Action.declare, Scopes.declare, Scopes.binds, Scopes.description,
        scopeAt_withScope, if_true]
      cases scope.bindings.contains param with
      | true => rfl
      | false =>
        simp only [Bool.false_eq_true, if_false, Scopes.bind, withScope, Scopes.update_push]
    simp only [bindParams, Bind.bind, first]
    cases taken : scope.bindings.contains param with
    | true =>
      refine ⟨scope.bindings, fun _ _ bound => .inl bound, .inr ⟨_, ?_, rfl⟩⟩
      exact .duplicate _ _
    | false =>
      obtain ⟨bindings, sources, ends⟩ :=
        ih { scope with bindings := scope.bindings.insert param arg }
      refine ⟨bindings, fun name info bound => ?_, ends.imp_left ?_⟩
      · obtain old | ⟨param', mem⟩ := sources name info bound
        · rw [Assoc.get?_insert] at old
          split at old
          · cases old
            exact .inr ⟨param, List.mem_cons_self⟩
          · exact .inl old
        · exact .inr ⟨param', List.mem_cons_of_mem _ mem⟩
      · rintro ⟨ends, keeps, binds⟩
        refine ⟨ends, fun name info bound => keeps name info ?_, List.forall_mem_cons.2 ⟨?_, binds⟩⟩
        · rw [Assoc.get?_insert, if_neg, bound]
          rintro rfl
          rw [Assoc.contains, bound] at taken
          cases taken
        · exact keeps param arg (by rw [Assoc.get?_insert, if_pos rfl])

/-- The result of a call fits if what the body has returned does. -/
lemma callResult_leads (good : R.Good s) (function : FunctionDef) {flow : Flow}
    (fits : flow.Fits s) :
    R.Leads v Failure.Calm Fitting s (callResult function flow s) := by
  cases flow with
  | normal =>
    exact .bind good (.text good _) fun fell s1 good later _ => .pure good trivial
  | returned result =>
    obtain ⟨value, why⟩ := result
    cases value with
    | none => exact .bind good (.conj good ..) fun returned s1 good later _ => .pure good trivial
    | object => exact .pure good fits
    | _ => exact .ask (.because good nofun)

/-- A call with the wrong number of arguments is refused, and nothing else happens. -/
lemma refuseArgs_leads (good : R.Good s) {function : FunctionDef} {args : List Justified}
    (differ : args.length ≠ function.params.length) :
    R.Leads v Failure.Calm Fitting s (refuseArgs function args why s) := by
  refine .ask (.bind good (.conj good ..) fun failure s1 good later _ => .fail good ?_)
  intro idle
  obtain ⟨-, none, none'⟩ := Fault.arityMismatch.inj idle
  exact differ (none'.trans none.symm)

/-- A body that has begun runs under a regime that holds when it starts, whatever holds where the
function was called. -/
lemma body_leads (h : inner.Regular R) (orderly : s.Orderly R.names) {f : Nat}
    {args : List Justified} (starts : R.Starts s f args) (lt : f < s.functions.size)
    (counts : args.length = (s.functionAt f).params.length) {now : Session}
    (held : SameStacks { s with calls := s.calls.enter (s.functionAt f).frame } now)
    (start : Orderly R.names { now with entered := s.scopes.size :: now.entered })
    (begun : s.BodyOf (s.functionAt f) args { now with entered := s.scopes.size :: now.entered })
    (good : (plain R.names).Good { s with calls := s.calls.enter (s.functionAt f).frame })
    (course : Course { s with calls := s.calls.enter (s.functionAt f).frame } now)
    (why : ReasonId) :
    (plain R.names).Leads [] Failure.Calm Fitting
      { s with calls := s.calls.enter (s.functionAt f).frame }
      ((Action.inScope s.scopes.size (runStatements inner why (s.functionAt f).body) >>=
        callResult (s.functionAt f)) now) := by
  have good1 : R.Good { now with entered := s.scopes.size :: now.entered } :=
    ⟨start, starts _ start counts begun⟩
  have grows : Grows (places R.names [])
      { s with calls := s.calls.enter (s.functionAt f).frame } now :=
    { begun.grows.widen fun _ _ => False.elim with }
  refine .bindFrom (.inScope good held grows course (fun i name opens old => ?_)
    flowFitting_lasting (runStatements_leads h good1 (orderly.tidy f lt).body) rfl)
    fun flow s1 good1 later fits => ?_
  · -- What the body sees is global or new.
    rw [begun.visible start] at opens
    refine .inl (opens.elim id fun ⟨mem, _⟩ => ?_)
    obtain rfl | global := List.mem_cons.1 mem
    · exact absurd old (Nat.lt_irrefl _)
    · exact List.mem_singleton.1 global
  · exact .of_later good later (callResult_leads good1 _ fits)

/-- Once a call has begun, its parameters are bound in a scope of its own. -/
lemma runFunction_leads (h : inner.Regular R) (orderly : s.Orderly R.names) {f : Nat}
    {args : List Justified} (starts : R.Starts s f args) (lt : f < s.functions.size)
    (fit : Justified.AllFit s args) (counts : args.length = (s.functionAt f).params.length) :
    (plain R.names).Leads [] Failure.Calm Fitting
      { s with calls := s.calls.enter (s.functionAt f).frame }
      (runFunction inner (s.functionAt f) args why
        { s with calls := s.calls.enter (s.functionAt f).frame }) := by
  let called : Session := { s with calls := s.calls.enter (s.functionAt f).frame }
  have good : (plain R.names).Good called :=
    ⟨orderly.enterCall fun owner owns => orderly.owners f owner lt owns, trivial⟩
  let scope : Scope :=
    { parent := some globalScope, description := s!"function {(s.functionAt f).name}" }
  obtain ⟨bindings, sources, ends⟩ := bindParams_withScope (s := called)
    ((s.functionAt f).params.zip args) scope
  -- However far the parameters have been bound, all that the new scope binds is arguments.
  have binds : (plain R.names).Good (called.withScope { scope with bindings }) ∧
      called.Later (places R.names []) (called.withScope { scope with bindings }) := by
    refine ⟨⟨good.orderly.withScope rfl good.orderly.global (fun name info bound => ?_) nofun,
      trivial⟩, withScope_grows _ _, ⟨rfl, rfl⟩, .single (.makeScope rfl)⟩
    obtain none | ⟨param, mem⟩ := sources name info bound
    · cases none
    · exact fit info (List.of_mem_zip mem).2
  change (plain R.names).Leads [] Failure.Calm Fitting called
    ((bindParams called.scopes.size ((s.functionAt f).params.zip args) >>= fun _ => do
      let called ← Action.conjAt s!"called {(s.functionAt f).name}" [why] (s.functionAt f).loc
      let flow ← Action.inScope s.scopes.size (runStatements inner called (s.functionAt f).body)
      callResult (s.functionAt f) flow) (called.withScope scope))
  refine .bindFrom (P := fun _ now => now = called.withScope { scope with bindings } ∧
    ∀ entry ∈ (s.functionAt f).params.zip args, bindings.get? entry.1 = some entry.2) ?_ ?_
  · obtain ⟨ends, -, bound⟩ | ⟨failure, calm, ends⟩ := ends
    · rw [ends]
      exact .done binds.1 binds.2 ⟨rfl, bound⟩
    · rw [ends]
      exact .failed binds.1 binds.2 calm
  rintro _ _ good1 later1 ⟨rfl, bound⟩
  refine .bindFrom (.of_later good later1 (.conjAt good1 ..)) ?_
  rintro reason _ good2 later2 ⟨graph, rfl⟩
  have made : (called.withScope { scope with bindings }).scopes.scopeAt s.scopes.size =
      { scope with bindings } := (scopeAt_withScope ..).trans (if_pos rfl)
  have ordinary : (called.withScope { scope with bindings }).Ordinary s.scopes.size :=
    good.orderly.ordinary_new rfl
  refine body_leads h orderly starts lt counts later2.same
    (good2.orderly.enterScope { ordinary with }) ⟨?_, ?_, ?_, rfl, rfl, ?_⟩ good later2.course
    reason
  · exact { withScope_grows called { scope with bindings } with }
  · exact congrArg Scope.parent made
  · intro entry mem
    exact (congrArg (fun scope => scope.bindings.get? entry.1) made).trans (bound entry mem)
  · have begins : s.Course called := .single (.aside s.entered _ s.console s.nextObject)
    exact (begins.trans later2.course).tail (.aside _ called.calls s.console s.nextObject)

/-- A call whose body starts under a regime. What holds where the function is called is not asked
for. -/
lemma callFunction_plain (h : inner.Regular R) (orderly : s.Orderly R.names) {f : Nat}
    {args : List Justified} (starts : R.Starts s f args) (lt : f < s.functions.size)
    (fit : Justified.AllFit s args) :
    (plain R.names).Leads [] Failure.Calm Fitting s (callFunction inner f args why s) := by
  rw [Comparison.callFunction_eq]
  split
  · rename_i counts
    exact .inCall orderly fitting_lasting (runFunction_leads h orderly starts lt fit counts)
  · rename_i differ
    have good : (plain R.names).Good s := ⟨orderly, trivial⟩
    exact refuseArgs_leads good differ

/-- A call runs as it should if it is ready. -/
lemma callFunction_leads (h : inner.Regular R) (bodies : R.Bodies) (good : R.Good s) {f : Nat}
    {args : List Justified} (lt : f < s.functions.size) (fit : Justified.AllFit s args)
    (ready : R.ready s f args) :
    R.Leads [] Failure.Calm Fitting s (callFunction inner f args why s) :=
  .regain good (callFunction_plain h good.orderly (bodies good.orderly lt ready) lt fit)

/-! ## Functions and methods -/

/-- A function that a name means belongs to no class. -/
lemma lookupFunction_leads (good : R.Good s) (name : String) :
    R.Leads v Failure.Calm
      (fun f now => s = now ∧ Nat.lt f s.functions.size ∧ (s.functionAt f).owner = none) s
      (lookupFunction name why s) := by
  unfold lookupFunction
  refine .ask (.ask ?_)
  cases found : s.scopes.tryGet s.currentScope name with
  | none => exact .ask (.because good nofun)
  | some info =>
    obtain ⟨value, stored⟩ := info
    have fits := good.orderly.tryGet good.orderly.currentScope.noImpl found
    cases value with
    | functionRef f => exact .pure good ⟨rfl, fits⟩
    | _ => exact .ask (.because good nofun)

/-- A method is found in the table of the class. -/
lemma findMethod_leads (good : R.Good s) (id : ClassId) (method : String) :
    R.Leads v Failure.Calm
      (fun f now => s = now ∧ (s.classAt id).methods.get? method = some f) s
      (findMethod id method why s) := by
  unfold findMethod
  refine .ask ?_
  cases found : (s.classAt id).methods.get? method with
  | some f => exact .pure good ⟨rfl, rfl⟩
  | none => exact .ask (.because good nofun)

end Regime

namespace Session

variable {names : String → Prop} {s : Session}

/-- A method that is found in the table of the class of an object belongs to this class or to one
above it. -/
lemma Orderly.receives (h : s.Orderly names) {value : Value} (fits : value.Fits s) {id : ClassId}
    (ofClass : s.classOf? value = some id) {method : String} {f : FunctionId}
    (found : (s.classAt id).methods.get? method = some f) (why : ReasonId) (args : List Justified) :
    s.Receives f (⟨value, why⟩ :: args) := by
  intro owner owns
  obtain ⟨-, owner', mem, owns'⟩ := h.method_owner (class_lt_of_fits fits ofClass) found
  cases owns'.symm.trans owns
  exact ⟨⟨value, why⟩, args, rfl, id, ofClass, mem⟩

/-- A function that belongs to no class receives any arguments. -/
lemma receives_of_unowned {f : FunctionId} (unowned : (s.functionAt f).owner = none)
    (args : List Justified) : s.Receives f args := by
  intro owner owns
  rw [unowned] at owns
  cases owns

/-- Suitable arguments of a method stay suitable while the session grows. -/
lemma Receives.grows {s' : Session} {o : Places} {f : Nat} {args : List Justified}
    (receives : s.Receives f args) (lt : f < s.functions.size) (fit : Justified.AllFit s args)
    (rooted : s.Rooted) (rooted' : s'.Rooted) (h : s.Grows o s') : s'.Receives f args := by
  intro owner owns
  rw [h.functionAt f lt] at owns
  obtain ⟨receiver, rest, rfl, ofClass⟩ := receives owner owns
  have fits := fit receiver List.mem_cons_self
  exact ⟨receiver, rest, rfl, ofClass.grows fits rooted rooted' h⟩

end Session

namespace Regime

variable {R : Regime} {inner : Inner} {s : Session} {why : ReasonId}

/-- A method that is called on a fitting receiver runs as it should. -/
lemma callMethod_leads (h : inner.Regular R) (good : R.Good s) {receiver : Justified}
    (fits : receiver.value.Fits s) (method : String) {args : List Justified}
    (fit : Justified.AllFit s args) :
    R.Leads [] Failure.Calm Fitting s (callMethod inner receiver method args why s) := by
  unfold callMethod
  refine .ask ?_
  cases ofClass : s.classOf? receiver.value with
  | none => exact .ask (.because good nofun)
  | some id =>
    refine .bind good (findMethod_leads good id method) ?_
    rintro f _ - - ⟨rfl, found⟩
    refine .bind good (.unknown good) fun unknown s1 good1 later _ => ?_
    have lt := (good.orderly.method_owner (class_lt_of_fits fits ofClass) found).1
    have all : Justified.AllFit s (⟨receiver.value, unknown⟩ :: args) := .cons fits fit
    have receives : s.Receives f (⟨receiver.value, unknown⟩ :: args) :=
      good.orderly.receives fits ofClass found _ _
    refine h.call why good1 (Nat.lt_of_lt_of_le lt later.grows.functions) (all.grows later.grows)
      (R.receives good1.orderly good1.holds (all.grows later.grows) ?_)
    exact receives.grows lt all good.orderly.rooted good1.orderly.rooted later.grows

end Regime

end Because
