import Because.Proofs.Comparison.Track
import Because.Proofs.Integrity

/-!
# What a return ends

A `return` ends the body of a function at once: the reason of the value that it gives is the last
one that is recorded, however deep the `return` lies in conditions and loops. A call adds at most
the reason of its own result, which is the last one then. Whatever is evaluated or executed records
reasons, so that nothing at all comes after.
-/

namespace Because

variable {ε α β : Type} {s s' : Session} {why : ReasonId} {inner : Inner}

/-- The last reason that has been recorded. -/
def Graph.Newest (g : Graph) (why : ReasonId) : Prop := why + 1 = g.size

/-- If a value is returned, its reason is the last one. -/
def Flow.Newest (g : Graph) : Flow → Prop
  | .normal => True
  | .returned result => g.Newest result.why

/-- The result of a call: None or an object, for the last reason. -/
structure Justified.Newest (g : Graph) (result : Justified) : Prop where
  why : g.Newest result.why
  value : result.value = .none ∨ ∃ object, result.value = .object object

/-- What holds of every result, with the reasons that have been recorded by then. -/
def Action.Yields (P : Graph → α → Prop) (a : Action ε α) : Prop :=
  ∀ s x s', a s = .done x s' → P s'.graph x

namespace Action.Yields

variable {a : Action ε α} {f : α → Action ε β} {P : Graph → α → Prop} {Q : Graph → β → Prop}

/-- A result of which something holds in every graph is yielded. -/
lemma pure {x : α} (holds : ∀ g, P g x) : Yields P (Pure.pure x : Action ε α) := by
  intro s y s' done
  cases done
  exact holds _

/-- A failure yields nothing. -/
lemma fail (error : ε) : Yields P (Action.fail error : Action ε α) :=
  fun _ _ _ done => nomatch done

/-- Giving up yields nothing. -/
lemma giveUp : Yields P (Action.giveUp : Action ε α) :=
  fun _ _ _ done => nomatch done

/-- What counts is how the last part ends. -/
lemma bind (last : ∀ x, Yields Q (f x)) : Yields Q (a >>= f) := by
  intro s y s' done
  obtain ⟨x, now, -, done⟩ := done_of_bind done
  exact last x now y s' done

/-- The last part only hands on what the first one ends with, or counts itself. -/
lemma bindOn (first : Yields P a)
    (last : ∀ x, Yields Q (f x) ∨ ∃ y, f x = Pure.pure y ∧ ∀ g, P g x → Q g y) :
    Yields Q (a >>= f) := by
  intro s y s' done
  obtain ⟨x, now, firstDone, done⟩ := done_of_bind done
  obtain counts | ⟨z, hands, holds⟩ := last x
  · exact counts now y s' done
  · rw [hands] at done
    cases done
    exact holds _ (first s x s' firstDone)

/-- What is yielded in a scope is yielded. -/
lemma inScope (scope : ScopeId) (h : Yields P a) : Yields P (Action.inScope scope a) := by
  intro s x s' done
  simp only [Action.inScope] at done
  cases ends : a { s with entered := scope :: s.entered } with
  | done y now =>
    rw [ends] at done
    cases done
    exact h _ x now ends
  | failed | exhausted =>
    rw [ends] at done
    cases done

/-- What is yielded in a call is yielded. -/
lemma inCall {a : Eval α} (frame : Frame) (why : ReasonId) (h : Yields P a) :
    Yields P (Action.inCall frame why a) := by
  intro s x s' done
  simp only [Action.inCall] at done
  cases pushed : s.calls.push frame with
  | error =>
    rw [pushed] at done
    cases done
  | ok calls =>
    rw [pushed] at done
    dsimp only at done
    cases ends : a { s with calls } with
    | done y now =>
      rw [ends] at done
      cases done
      exact h _ x now ends
    | failed | exhausted =>
      rw [ends] at done
      cases done

/-! ## Reasons -/

/-- A text that is recorded is the newest reason. -/
lemma text (message : String) :
    Yields Graph.Newest (Action.text message : Action ε ReasonId) := by
  intro s id s' done
  cases done
  exact (Graph.size_push ..).symm

/-- A reason that is recorded is the newest one. -/
lemma record (kind : Kind) (supporters : List ReasonId) (location : Option Location) :
    Yields Graph.Newest (Action.record kind supporters location) := by
  intro s id s' done
  simp only [Action.record, Graph.add] at done
  cases late : s.graph.firstLate? supporters with
  | some =>
    rw [late] at done
    cases done
  | none =>
    rw [late] at done
    cases done
    exact (Graph.size_push ..).symm

/-- To hide a reason records none. -/
lemma hide {a : Eval ReasonId} {result : ReasonId → β} (h : Yields Graph.Newest a)
    (given : ∀ g id, g.Newest id → Q g (result id)) :
    Yields Q (a >>= fun id => do Action.hide id; return result id) := by
  intro s x s' done
  obtain ⟨id, now, recorded, rest⟩ := done_of_bind done
  obtain ⟨_, later, hides, last⟩ := done_of_bind rest
  cases last
  have newest : now.graph.Newest id := h s id now recorded
  simp only [Action.hide,
    Graph.hide_ok (Nat.lt_of_lt_of_eq id.lt_succ_self newest)] at hides
  cases hides
  exact given _ id (newest.trans (Graph.size_hideAt _).symm)

end Action.Yields

open Because.Action Comparison

/-! ## Statements -/

/-- The statements inside return at once. -/
def Inner.Returns (inner : Inner) : Prop :=
  ∀ stmt why, Yields Flow.Newest (inner.exec stmt why)

/-- Statements return at once, for the newest reason. -/
lemma runStatements_newest (h : inner.Returns) (why : ReasonId) (stmts : List Stmt) :
    Yields Flow.Newest (runStatements inner why stmts) := by
  induction stmts with
  | nil => exact .pure fun _ => trivial
  | cons stmt rest ih =>
    refine Yields.bindOn (h stmt why) ?_
    rintro (_ | result)
    · exact .inl ih
    · exact .inr ⟨.returned result, rfl, fun _ => id⟩

/-- A `return` gives None or an object for the newest reason. -/
lemma execReturn_newest (value : Expr) (loc : Location) (why : ReasonId) :
    Yields Flow.Newest (execReturn inner value loc why) := by
  apply Yields.bind
  intro result
  apply Yields.bind
  intro rendered
  refine Yields.bindOn (.record _ _ _) ?_
  exact fun returned => .inr ⟨_, rfl, fun _ => id⟩

/-- An `if` returns what its branch returns. -/
lemma execIf_newest (h : inner.Returns) (condition : Expr) (thenBranch elseBranch : List Stmt)
    (why : ReasonId) :
    Yields Flow.Newest (execIf inner condition thenBranch elseBranch why) := by
  apply Yields.bind
  intro result
  apply Yields.bind
  intro truth
  split
  · exact runStatements_newest h _ thenBranch
  · exact runStatements_newest h _ elseBranch

/-- Passes over a list of items return what the body returns. -/
lemma forItems_newest (h : inner.Returns) (loopScope : ScopeId) (name : String) (loc : Location)
    (body : List Stmt) (collectionWhy why : ReasonId) (items : List Justified) :
    Yields Flow.Newest
      (forItems inner loopScope name loc body collectionWhy why items) := by
  induction items with
  | nil => exact .pure fun _ => trivial
  | cons item rest ih =>
    apply Yields.bind
    intro rendered
    apply Yields.bind
    intro pass
    apply Yields.bind
    intro _
    apply Yields.bind
    intro scope
    refine Yields.bindOn (.inScope scope (runStatements_newest h pass body)) ?_
    rintro (_ | result)
    · exact .inl ih
    · exact .inr ⟨.returned result, rfl, fun _ => id⟩

/-- A loop over a collection returns what its body returns. -/
lemma execForEach_newest (h : inner.Returns) (name : String) (values : Expr) (body : List Stmt)
    (why : ReasonId) :
    Yields Flow.Newest (execForEach inner name values body why) := by
  apply Yields.bind
  intro current
  apply Yields.bind
  intro loopScope
  apply Yields.inScope
  apply Yields.bind
  intro collection
  apply Yields.bind
  intro initialized
  apply Yields.bind
  intro _
  apply Yields.bind
  exact forItems_newest h loopScope name values.loc body collection.why why

/-- A pass of a `while` loop returns what its body returns. -/
lemma whilePass_newest (h : inner.Returns) (condition : Expr) (body : List Stmt) (loc : Location)
    (why : ReasonId) :
    Yields (fun g flow? => ∀ flow ∈ flow?, flow.Newest g)
      (whilePass inner condition body loc why) := by
  apply Yields.bind
  intro result
  apply Yields.bind
  intro truth
  split
  · apply Yields.bind
    intro rendered
    apply Yields.bind
    intro pass
    refine Yields.bindOn (runStatements_newest h pass body) ?_
    exact fun flow => .inr ⟨some flow, rfl, fun _ newest _ same => Option.some.inj same ▸ newest⟩
  · exact .pure fun _ _ none => by cases none

/-- A `while` loop returns what its body returns. -/
lemma execWhile_newest (h : inner.Returns) (condition : Expr) (body : List Stmt) (loc : Location)
    (why : ReasonId) (passes : Nat) :
    Yields Flow.Newest (execWhile inner condition body loc why passes) := by
  induction passes with
  | zero => exact .giveUp
  | succ passes ih =>
    apply Yields.bind
    intro current
    apply Yields.bind
    intro scope
    refine Yields.bindOn (.inScope scope (whilePass_newest h condition body loc why)) ?_
    rintro (_ | _ | result)
    · exact .inl (.pure fun _ => trivial)
    · exact .inl ih
    · exact .inr ⟨.returned result, rfl, fun _ newest => newest _ rfl⟩

/-- The body of a built-in method returns for the newest reason. -/
lemma invokeNative_newest (method : String) (params : List String) (loc : Location)
    (why : ReasonId) :
    Yields Flow.Newest (invokeNative inner method params loc why) := by
  apply Yields.bind
  intro this
  apply Yields.bind
  intro args
  apply Yields.bind
  intro shown
  apply Yields.bind
  intro given
  apply Yields.bind
  intro object
  apply Yields.bind
  intro history
  apply Yields.bind
  intro handle
  split
  · apply Yields.bind
    intro result
    apply Yields.bind
    intro _
    apply Yields.bind
    intro rendered
    exact .hide (.record _ _ _) fun _ _ => id
  · exact .fail _

/-- Statements that no `return` can lie in end without one. -/
lemma thenNormal_newest (a : Eval α) :
    Yields Flow.Newest (do let _ ← a; return .normal) :=
  .bind fun _ => .pure fun _ => trivial

/-- Every statement returns for the newest reason, if what lies inside it does. -/
lemma execStmt_newest (h : inner.Returns) (stmt : Stmt) (why : ReasonId) :
    Yields Flow.Newest (execStmt inner stmt why) := by
  cases stmt with
  | ifElse _ condition thenBranch elseBranch =>
    exact execIf_newest h condition thenBranch elseBranch why
  | forEach _ name values body => exact execForEach_newest h name values body why
  | whileDo loc condition body => exact execWhile_newest h condition body loc why inner.passes
  | ret loc value => exact execReturn_newest value loc why
  | invokeNative loc method params => exact invokeNative_newest method params loc why
  | raise => exact .fail _
  | fullExplain _ value =>
    apply Yields.bind
    exact fun result => thenNormal_newest (printExplanation result.why none)
  | shortExplain _ value depth =>
    apply Yields.bind
    intro result
    apply Yields.bind
    intro depthInfo
    apply Yields.bind
    exact fun depth => thenNormal_newest (printExplanation result.why (some depth))
  | _ => exact thenNormal_newest _

/-- Statements return at once within any number of steps. -/
lemma within_returns (steps : Nat) : (Inner.within steps).Returns := by
  induction steps with
  | zero => exact fun _ _ => .giveUp
  | succ steps ih => exact execStmt_newest ih

/-! ## Calls -/

/-- The result of a call is for the newest reason, if what the body has returned is. -/
lemma callResult_newest (function : FunctionDef) {a : Eval Flow} (h : Yields Flow.Newest a) :
    Yields Justified.Newest (a >>= callResult function) := by
  refine Yields.bindOn h ?_
  rintro (_ | ⟨value, why⟩)
  · left
    refine Yields.bindOn (.text _) ?_
    exact fun fell => .inr ⟨_, rfl, fun _ newest => ⟨newest, .inl rfl⟩⟩
  · cases value with
    | none =>
      left
      refine Yields.bindOn (.record _ _ _) ?_
      exact fun returned => .inr ⟨_, rfl, fun _ newest => ⟨newest, .inl rfl⟩⟩
    | object object => exact .inr ⟨_, rfl, fun _ newest => ⟨newest, .inr ⟨object, rfl⟩⟩⟩
    | _ => exact .inl (.bind fun _ => .fail _)

/-- A call gives its result for the newest reason. -/
lemma callFunction_newest (h : inner.Returns) (id : FunctionId) (args : List Justified)
    (why : ReasonId) : Yields Justified.Newest (callFunction inner id args why) := by
  apply Yields.bind
  intro function
  split
  · apply Yields.inCall
    apply Yields.bind
    intro scope
    apply Yields.bind
    intro _
    apply Yields.bind
    intro called
    exact callResult_newest function (.inScope scope (runStatements_newest h called function.body))
  · apply Yields.bind
    intro given
    apply Yields.bind
    exact fun failure => .fail _

/-! ## What comes after a return -/

/-- Statements that follow those that return are not run. -/
lemma runStatements_append {result : Justified} {stmts : List Stmt} (rest : List Stmt)
    (returns : runStatements inner why stmts s = .done (.returned result) s') :
    runStatements inner why (stmts ++ rest) s = .done (.returned result) s' := by
  induction stmts generalizing s with
  | nil => cases returns
  | cons stmt stmts ih =>
    obtain ⟨flow, now, ran, last⟩ := done_of_bind returns
    refine (bind_done ran).trans ?_
    cases flow with
    | normal => exact ih last
    | returned => exact last

/-- Items that follow the one of a pass that returns are not visited. -/
lemma forItems_append {loopScope : ScopeId} {name : String} {loc : Location} {body : List Stmt}
    {collectionWhy : ReasonId} {result : Justified} {items : List Justified}
    (rest : List Justified)
    (returns : forItems inner loopScope name loc body collectionWhy why items s =
      .done (.returned result) s') :
    forItems inner loopScope name loc body collectionWhy why (items ++ rest) s =
      .done (.returned result) s' := by
  induction items generalizing s with
  | nil => cases returns
  | cons item items ih =>
    obtain ⟨rendered, s1, renders, returns⟩ := done_of_bind returns
    obtain ⟨pass, s2, passes, returns⟩ := done_of_bind returns
    obtain ⟨_, s3, assigns, returns⟩ := done_of_bind returns
    obtain ⟨scope, s4, scopes, returns⟩ := done_of_bind returns
    obtain ⟨flow, s5, ran, last⟩ := done_of_bind returns
    refine (bind_done renders).trans ?_
    refine (bind_done passes).trans ?_
    refine (bind_done assigns).trans ?_
    refine (bind_done scopes).trans ?_
    refine (bind_done ran).trans ?_
    cases flow with
    | normal => exact ih last
    | returned => exact last

/-- What a call in a sound session results in has been made in it. -/
lemma callFunction_known {steps : Nat} {id : FunctionId} {args : List Justified}
    {result : Justified} (sound : s.Sound) (ha : Justified.AllIn s.census args)
    (hw : s.census.reason why)
    (done : callFunction (.within steps) id args why s = .done result s') :
    result.In s'.census := by
  have ends := callFunction_sim (tracked_insides steps) (fun _ _ => trivial) tracked_room id ha hw
    s s (tracked_pair sound)
  rw [show args.map (Justified.rename (tracked s.graph).rename) = args from args.map_id] at ends
  rw [show (tracked s.graph).rename why = why from rfl, done] at ends
  cases ends with
  | done _ pair _ _ info =>
    obtain ⟨-, tracks⟩ := pair.holds
    exact info.2.mono tracks.known

/-- If statements, nested in whatever way, end with a `return`, or a call ends with a result, then
its reason is the last one that has been recorded: nothing has been run since, whatever statements
or items are left. A call results in None or in an object, and objects are scopes that have
a class. -/
theorem returns_newest (steps : Nat) (s s' : Session) (why : ReasonId) (result : Justified) :
    (∀ stmt, exec steps stmt why s = .done (.returned result) s' →
      s'.graph.Newest result.why) ∧
    (∀ stmts, runStatements (.within steps) why stmts s = .done (.returned result) s' →
      s'.graph.Newest result.why ∧ ∀ rest,
        runStatements (.within steps) why (stmts ++ rest) s = .done (.returned result) s') ∧
    (∀ scope name loc body collectionWhy items,
      forItems (.within steps) scope name loc body collectionWhy why items s =
        .done (.returned result) s' →
      s'.graph.Newest result.why ∧ ∀ rest,
        forItems (.within steps) scope name loc body collectionWhy why (items ++ rest) s =
          .done (.returned result) s') ∧
    ∀ id args, callFunction (.within steps) id args why s = .done result s' →
      s'.graph.Newest result.why ∧
      (result.value = .none ∨ ∃ object, result.value = .object object ∧
        (s.Sound → Justified.AllIn s.census args → s.census.reason why →
          (s'.classOf? result.value).isSome)) := by
  have returns := within_returns steps
  refine ⟨fun stmt => ?_, fun stmts ends => ⟨?_, fun rest => ?_⟩,
    fun _ _ _ _ _ _ ends => ⟨?_, fun rest => ?_⟩, fun id args ends => ?_⟩
  · exact returns stmt why s (.returned result) s'
  · exact runStatements_newest returns why stmts s _ s' ends
  · exact runStatements_append rest ends
  · exact forItems_newest returns _ _ _ _ _ _ _ s _ s' ends
  · exact forItems_append rest ends
  · obtain ⟨newest, none | ⟨object, same⟩⟩ :=
      callFunction_newest returns id args why s result s' ends
    · exact ⟨newest, .inl none⟩
    · refine ⟨newest, .inr ⟨object, same, fun sound ha hw => ?_⟩⟩
      have known := (callFunction_known sound ha hw ends).value
      rw [same] at known ⊢
      exact Option.isSome_map.trans known.2

/-- Return an item of a list from inside a condition in a loop in another loop. -/
def seeker : List Stmt :=
  [.declare .builtin "xs" (.new .builtin "List" []),
    .effect .builtin (.methodCall .builtin (.get .builtin "xs") "append"
      [.new .builtin "Bool" [.const .builtin (.bool true)]]),
    .forEach .builtin "x" (.get .builtin "xs")
      [.whileDo .builtin (.get .builtin "x")
        [.ifElse .builtin (.get .builtin "x") [.ret .builtin (.get .builtin "x")] []]]]

/-- The reason of what is returned is the last one, both where it returns and after the call. -/
theorem returns_newest_of_seeker : ∃ s, (Session.start {} {}).LeadsTo s ∧
    (∃ result s', runStatements (.within 8) 0 seeker s = .done (.returned result) s' ∧
      s'.graph.Newest result.why) ∧
    ∃ result s', callFunction (.within 8) 21 [] 0 s = .done result s' ∧
      s'.graph.Newest result.why ∧ (s'.classOf? result.value).isSome := by
  have runs : ((runProgram (.within 8)
      [.declareFunction .builtin ⟨"seek", [], seeker, .builtin⟩]
      (.start {} {})).session?.map fun s => decide (0 < s.graph.size ∧
        (runStatements (.within 8) 0 seeker s).result?.any (·.1 != .normal) ∧
        (callFunction (.within 8) 21 [] 0 s).result?.any (·.1.value != .none))) = some true := by
    decide +kernel
  obtain ⟨s, left, facts⟩ := Option.map_eq_some_iff.1 runs
  obtain ⟨recorded, returns, gives⟩ := of_decide_eq_true facts
  have leads : (Session.start {} {}).LeadsTo s := ⟨8, _, left⟩
  have sound := (Session.Reachable.run (.start {} {}) leads).sound
  obtain ⟨⟨flow, s1⟩, ran, notNormal⟩ := (Option.any_eq_true ..).1 returns
  obtain ⟨⟨result, s2⟩, called, notNone⟩ := (Option.any_eq_true ..).1 gives
  refine ⟨s, leads, ?_, result, s2, Outcome.eq_done called, ?_⟩
  · cases flow with
    | normal => cases notNormal
    | returned returned =>
      have ends := Outcome.eq_done ran
      exact ⟨returned, s1, ends, ((returns_newest 8 s s1 0 returned).2.1 seeker ends).1⟩
  · obtain ⟨newest, none | ⟨object, -, known⟩⟩ :=
      (returns_newest 8 s s2 0 result).2.2.2 21 [] (Outcome.eq_done called)
    · rw [none] at notNone
      cases notNone
    · exact ⟨newest, known sound (List.forall_mem_nil _) recorded⟩

end Because
