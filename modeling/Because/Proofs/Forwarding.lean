import Because.Proofs.Receivers
import Because.Proofs.Recognition
import Mathlib.Data.List.Forall2

/-!
# Built-in methods run on the state of their receivers

A method of a built-in class is a function like others: its body reads `self` and the parameters and
hands the method over to the state of `self`. Four tables have to agree for this: the methods that a
class declares, those that its objects know, the tables that classes inherit, and the built-in class
that a class builds on. They do, so that a method that is called on an object as its class has it
finds a state of its class, which knows the method and takes the arguments; also for classes of the
program that build on the built-in one, and while their constructors run.
-/

namespace Because

open Session Comparison

/-! ## Functions of built-in classes -/

namespace Session

variable {s s' : Session}

/-- Functions belong to classes that are there, and those of built-in classes hand their methods
over. -/
structure Wired (s : Session) : Prop where
  owners : ∀ f owner, (s.functionAt f).owner = some owner → Nat.lt owner s.classes.size
  wires : ∀ f, s.Wires (s.functionAt f)

/-- A function that is there hands over what it has handed over. -/
lemma Wires.change {function : FunctionDef} (wires : s.Wires function) (change : s.Change s')
    (owned : ∀ owner, function.owner = some owner → Nat.lt owner s.classes.size) :
    s'.Wires function := by
  intro owner builtin owns isBuiltin
  rw [change.classAt (owned owner owns)] at isBuiltin
  exact wires owner builtin owns isBuiltin

/-- A function stays what it is, or is new. -/
lemma Change.function (change : s.Change s') (f : FunctionId) :
    s'.functionAt f = s.functionAt f ∨
      (∀ owner, (s'.functionAt f).owner = some owner → Nat.lt owner s.classes.size) ∧
        s.Wires (s'.functionAt f) := by
  cases change with
  | @makeFunction function owned wires =>
    have same := functionAt_withFunction s function f
    rw [withFunction] at same
    rw [same]
    split
    · exact .inr ⟨owned, wires⟩
    · exact .inl rfl
  | _ => exact .inl rfl

/-- Every change of a session keeps the methods of built-in classes wired. -/
lemma wired_kept : Kept Wired := by
  intro s s' change h
  have functions (f : FunctionId) :
      (∀ owner, (s'.functionAt f).owner = some owner → Nat.lt owner s.classes.size) ∧
        s.Wires (s'.functionAt f) := by
    obtain same | new := change.function f
    · rw [same]
      exact ⟨h.owners f, h.wires f⟩
    · exact new
  refine ⟨fun f owner owns => ?_, fun f => (functions f).2.change change (functions f).1⟩
  exact Nat.lt_of_lt_of_le ((functions f).1 owner owns) change.classes_size

/-- A blank session has no functions, and so none that is wired wrongly. -/
lemma blank_wired (config : Config) (console : Console) : (blank config console).Wired := by
  have none (f : FunctionId) : ((blank config console).functionAt f).owner = none := by
    cases f <;> rfl
  refine ⟨fun f owner owns => ?_, fun f owner builtin owns => ?_⟩
  · cases (none f).symm.trans owns
  · cases (none f).symm.trans owns

end Session

/-! ## Reading the arguments -/

namespace Session

variable {s : Session} {α β : Type} {P : α → Prop}

/-- How an action ends that does nothing but record reasons. -/
inductive Told (s : Session) (P : α → Prop) : Outcome Failure α → Prop where
  | done {x : α} (graph : Graph) : P x → Told s P (.done x { s with graph })
  | refused (cause : GraphError) (graph : Graph) :
    Told s P (.failed (.of (.graph cause)) { s with graph })

namespace Told

/-- What comes after the reasons have been recorded. -/
lemma andThen {a : Eval α} {f : α → Eval β} {Q : Outcome Failure β → Prop}
    (told : s.Told P (a s))
    (refused : ∀ cause graph, Q (.failed (.of (.graph cause)) { s with graph }))
    (next : ∀ x graph, P x → Q (f x { s with graph })) : Q ((a >>= f) s) := by
  simp only [Bind.bind]
  generalize a s = o at told
  cases told with
  | done graph p => exact next _ graph p
  | refused cause graph => exact refused cause graph

/-- What comes after a question. -/
lemma afterAsk {answer : Session → α} {f : α → Eval β} {Q : Outcome Failure β → Prop}
    (next : Q (f (answer s) s)) : Q ((Action.ask answer >>= f) s) := next

/-- Recording a reason does nothing but record a reason. -/
lemma record (kind : Kind) (supporters : List ReasonId) (location : Option Location) :
    s.Told (fun _ => True) (Action.record kind supporters location s) := by
  unfold Action.record
  cases s.graph.add kind supporters location with
  | ok recorded => exact .done recorded.2 trivial
  | error cause => exact .refused cause s.graph

end Told

/-- Reading a variable that is bound does nothing but record a reason, and gives its value. -/
lemma lookupVariable_told {name : String} {stored : Justified} (loc : Location) (why : ReasonId)
    (bound : s.scopes.tryGet s.currentScope name = some stored) :
    s.Told (fun info => info.value = stored.value) (lookupVariable name loc why s) := by
  have found : s.scopes.get s.currentScope name = .ok stored := by
    rw [Scopes.get, bound]
  have reads : lookupVariable name loc why s =
      (Action.full name (s.render stored.value) loc why [stored.why] >>= fun read =>
        return ⟨stored.value, read⟩) s := by
    simp only [lookupVariable, Bind.bind, Action.currentScope, Action.ask, found, Action.render]
  rw [reads]
  exact Told.andThen (Q := s.Told _) (.record ..) (fun cause graph => .refused cause graph)
    fun read graph _ => .done graph rfl

/-- Variables that are bound to the arguments give them. -/
lemma lookupVariables_told {params : List String} {args : List Justified} (loc : Location)
    (why : ReasonId) (bound : List.Forall₂ (fun name arg =>
      s.scopes.tryGet s.currentScope name = some arg) params args) :
    s.Told (fun infos => infos.map Justified.value = args.map Justified.value)
      (lookupVariables loc why params s) := by
  induction params generalizing s args with
  | nil =>
    cases bound
    exact .done s.graph rfl
  | cons name names ih =>
    cases bound with
    | cons first others =>
      refine Told.andThen (Q := s.Told _) (lookupVariable_told loc why first)
        (fun cause graph => .refused cause graph) fun info graph same => ?_
      refine Told.andThen (Q := s.Told _) (s := { s with graph }) (ih others)
        (fun cause graph => .refused cause graph) fun infos graph all => .done graph ?_
      rw [List.map_cons, List.map_cons, same, all]

/-! ## Handing over -/

/-- What is left of a forwarding that has found the state of its receiver. -/
def handOver (inner : Inner) (scope : ScopeId) (handle : Handle) (method object shown : String)
    (loc : Location) (why history : ReasonId) (infos : List Justified) : Eval Flow := do
  let result ← (Native.invoke inner scope handle method history infos).toEval handle.builtin.name
    method history
  Action.hide history
  let rendered ← Action.render result.value
  let forwarded ← Action.full s!"unmanaged {object}.{method}({shown})" rendered loc why
    [result.why]
  Action.hide forwarded
  return .returned ⟨result.value, forwarded⟩

/-- How a forwarding ends that finds the state of its receiver: the state is of the built-in class,
gets the arguments and knows the method, unless a reason is refused before. -/
inductive HandedOver (inner : Inner) (builtin : Builtin) (method : String) (loc : Location)
    (why : ReasonId) (receiver : Justified) (args : List Justified) : Outcome Failure Flow → Prop where
  | refused (cause : GraphError) (s : Session) :
    HandedOver inner builtin method loc why receiver args (.failed (.of (.graph cause)) s)
  | handed {s : Session} {scope : ScopeId} {handle : Handle} {object shown : String}
    {history : ReasonId} {infos : List Justified} : receiver.value = .object scope →
    s.handle? receiver.value = some handle → handle.builtin = builtin →
    infos.map Justified.value = args.map Justified.value →
    (Native.invoke inner scope handle method history infos).Recognized →
    HandedOver inner builtin method loc why receiver args
      (handOver inner scope handle method object shown loc why history infos s)

/-- A forwarding in the session finds the state of its receiver, however it is run. -/
def HandsOver (s : Session) (builtin : Builtin) (method : String) (params : List String)
    (receiver : Justified) (args : List Justified) : Prop :=
  ∀ inner loc why, HandedOver inner builtin method loc why receiver args
    (execStmt inner (.invokeNative loc method params) why s)

/-- Where the receiver and the parameters are bound, the body of a built-in method finds the state
that it is for. -/
lemma handsOver_of_bound {builtin : Builtin} {method : String} {params : List String}
    {receiver : Justified} {args : List Justified} {handle : Handle}
    (declared : (method, params) ∈ builtin.methods)
    (self : s.scopes.tryGet s.currentScope selfName = some receiver)
    (bound : List.Forall₂ (fun name arg => s.scopes.tryGet s.currentScope name = some arg) params
      args)
    (state : s.handle? receiver.value = some handle) (isBuiltin : handle.builtin = builtin) :
    s.HandsOver builtin method params receiver args := by
  subst isBuiltin
  intro inner loc why
  obtain ⟨scope, isObject⟩ : ∃ scope, receiver.value = .object scope := by
    cases e : receiver.value with
    | object scope => exact ⟨scope, rfl⟩
    | _ =>
      rw [e] at state
      cases state
  let Ends := HandedOver inner handle.builtin method loc why receiver args
  have refused (cause : GraphError) (now : Session) : Ends (.failed (.of (.graph cause)) now) :=
    .refused cause now
  refine Told.andThen (Q := Ends) (lookupVariable_told loc why self)
    (fun cause graph => refused cause _) fun this graph same => ?_
  refine Told.andThen (Q := Ends) (s := { s with graph }) (lookupVariables_told loc why bound)
    (fun cause graph => refused cause _) fun infos graph all => ?_
  refine Told.afterAsk (Q := Ends) (Told.andThen (Q := Ends) (s := { s with graph })
    (.record ..) (fun cause graph => refused cause _) fun given graph _ => ?_)
  refine Told.afterAsk (Q := Ends) (Told.andThen (Q := Ends) (s := { s with graph })
    (.record ..) (fun cause graph => refused cause _) fun history graph _ => ?_)
  obtain ⟨value, read⟩ := this
  obtain rfl : value = .object scope := same.trans isObject
  have found : ({ s with graph } : Session).handle? (.object scope) = some handle :=
    isObject ▸ state
  have counts : infos.length = params.length := by
    rw [bound.length_eq, ← List.length_map Justified.value, all, List.length_map]
  have handed (object shown : String) : Ends (handOver inner scope handle method object shown loc
      why history infos { s with graph }) :=
    .handed isObject state rfl all (Native.invoke_recognized inner scope history declared counts)
  refine Told.afterAsk (Q := Ends) ?_
  rw [found]
  exact handed _ _

/-! ## Bodies -/

/-- The scope of a call. -/
def callScope (function : FunctionDef) : Scope :=
  { parent := some globalScope, description := s!"function {function.name}" }

/-- The session in which the body of a function begins, in a scope of its own that binds its
parameters. -/
def bodySession (s : Session) (function : FunctionDef) (bindings : Bindings) (graph : Graph) :
    Session :=
  { ({ s with calls := s.calls.enter function.frame } : Session).withScope
      { callScope function with bindings } with
    graph, entered := s.scopes.size :: s.entered }

/-- The two ways to run what lies inside make no difference for a call. -/
def CallsAlike (s : Session) (f : FunctionId) (args : List Justified) (why : ReasonId)
    (inner other : Inner) : Prop :=
  Because.callFunction inner f args why s = Because.callFunction other f args why s

/-- What is run in a scope may be replaced by what ends alike there. -/
lemma inScope_congr {ε : Type} {a b : Action ε α} {scope : ScopeId}
    (same : a { s with entered := scope :: s.entered } = b { s with entered := scope :: s.entered }) :
    Action.inScope scope a s = Action.inScope scope b s := by
  simp only [Action.inScope, same]

/-- What is run in a call may be replaced by what ends alike there. -/
lemma inCall_congr {a b : Eval α} {frame : Frame} {why : ReasonId}
    (same : a { s with calls := s.calls.enter frame } = b { s with calls := s.calls.enter frame }) :
    Action.inCall frame why a s = Action.inCall frame why b s := by
  simp only [Action.inCall, CallStack.push]
  cases s.calls.isFull with
  | true => rfl
  | false => simp only [Bool.false_eq_true, if_false, same]

/-- What is left of a call once the parameters of the function are bound. -/
def runBody (inner : Inner) (function : FunctionDef) (scope : ScopeId) (why : ReasonId) :
    Eval Justified := do
  let called ← Action.conjAt s!"called {function.name}" [why] function.loc
  let flow ← Action.inScope scope (runStatements inner called function.body)
  callResult function flow

/-- A function that runs binds its parameters in a new scope, and then its body runs there. -/
lemma runFunction_eq (inner : Inner) (function : FunctionDef) (args : List Justified)
    (why : ReasonId) : runFunction inner function args why s =
      (bindParams s.scopes.size (function.params.zip args) >>= fun _ =>
        runBody inner function s.scopes.size why) (s.withScope (callScope function)) := rfl

/-- If the body is one statement, the call goes on in the same way whenever the statement does. -/
lemma runBody_begins {function : FunctionDef} {stmt : Stmt} (single : function.body = [stmt])
    (scope : ScopeId) (why : ReasonId) :
    (∀ inner other, runBody inner function scope why s = runBody other function scope why s) ∨
    ∃ graph called, ∀ inner other : Inner,
      inner.exec stmt called { s with graph, entered := scope :: s.entered } =
        other.exec stmt called { s with graph, entered := scope :: s.entered } →
      runBody inner function scope why s = runBody other function scope why s := by
  have told : s.Told (fun _ => True)
      (Action.conjAt s!"called {function.name}" [why] function.loc s) := .record ..
  simp only [runBody, Bind.bind]
  cases ends : Action.conjAt s!"called {function.name}" [why] function.loc s with
  | failed | exhausted => exact .inl fun _ _ => rfl
  | done called =>
    rw [ends] at told
    cases told with
    | done graph =>
      refine .inr ⟨graph, called, fun inner other same => ?_⟩
      have inside : Action.inScope scope (runStatements inner called [stmt]) { s with graph } =
          Action.inScope scope (runStatements other called [stmt]) { s with graph } := by
        refine inScope_congr ?_
        simp only [runStatements, Bind.bind, same]
      simp only [single, inside]

/-- A call runs nothing, or it runs the body of the function once its parameters are bound: if this
is one statement, all that matters is what the statement does then. -/
lemma callFunction_begins {f : FunctionId} {stmt : Stmt} (single : (s.functionAt f).body = [stmt])
    (args : List Justified) (why : ReasonId) :
    (∀ inner other, s.CallsAlike f args why inner other) ∨
    args.length = (s.functionAt f).params.length ∧ ∃ bindings graph called,
      (∀ entry ∈ (s.functionAt f).params.zip args, bindings.get? entry.1 = some entry.2) ∧
      ∀ inner other : Inner,
        inner.exec stmt called (s.bodySession (s.functionAt f) bindings graph) =
          other.exec stmt called (s.bodySession (s.functionAt f) bindings graph) →
        s.CallsAlike f args why inner other := by
  by_cases counts : args.length = (s.functionAt f).params.length
  · let now : Session := { s with calls := s.calls.enter (s.functionAt f).frame }
    -- All that is left of the call, once there is room for it, is to run the function.
    have enters (inner other : Inner)
        (same : runFunction inner (s.functionAt f) args why now =
          runFunction other (s.functionAt f) args why now) : s.CallsAlike f args why inner other := by
      rw [CallsAlike, callFunction_eq, callFunction_eq, if_pos counts, if_pos counts]
      exact inCall_congr same
    obtain ⟨bindings, -, ⟨binds, -, bound⟩ | ⟨failure, -, fails⟩⟩ :=
      Regime.bindParams_withScope (s := now) ((s.functionAt f).params.zip args)
        (callScope (s.functionAt f))
    · have goesOn (inner other : Inner)
          (same : runBody inner (s.functionAt f) s.scopes.size why
              (now.withScope { callScope (s.functionAt f) with bindings }) =
            runBody other (s.functionAt f) s.scopes.size why
              (now.withScope { callScope (s.functionAt f) with bindings })) :
          s.CallsAlike f args why inner other := by
        refine enters inner other ?_
        rw [runFunction_eq, runFunction_eq]
        simp only [Bind.bind, binds]
        exact same
      obtain all | ⟨graph, called, alike⟩ := runBody_begins single s.scopes.size why
      · exact .inl fun inner other => goesOn inner other (all inner other)
      · exact .inr ⟨counts, bindings, graph, called, bound, fun inner other same =>
          goesOn inner other (alike inner other same)⟩
    · refine .inl fun inner other => enters inner other ?_
      rw [runFunction_eq, runFunction_eq]
      simp only [Bind.bind, fails]
  · refine .inl fun inner other => ?_
    rw [CallsAlike, callFunction_eq, callFunction_eq, if_neg counts, if_neg counts]

section

variable {function : FunctionDef} {bindings : Bindings} {graph : Graph}

/-- The body of a function runs in one more scope, which binds the parameters. -/
lemma scopeAt_bodySession (i : ScopeId) :
    (s.bodySession function bindings graph).scopes.scopeAt i =
      if i = s.scopes.size then { callScope function with bindings } else s.scopes.scopeAt i :=
  scopeAt_withScope ..

/-- In its body a function finds its parameters. -/
lemma tryGet_bodySession {name : String} {info : Justified}
    (bound : bindings.get? name = some info) :
    (s.bodySession function bindings graph).scopes.tryGet
      (s.bodySession function bindings graph).currentScope name = some info := by
  have here : (s.bodySession function bindings graph).scopes.local? s.scopes.size name =
      some info := by
    rw [Scopes.local?, scopeAt_bodySession, if_pos rfl, bound]
  change (s.bodySession function bindings graph).scopes.tryGet s.scopes.size name = some info
  rw [tryGet_eq, Scopes.chain, Scopes.chainFrom, List.findSome?_cons, here]

/-- When its body begins, objects have the states that they had before the call. -/
lemma handle_bodySession {value : Value} {handle : Handle} (state : s.handle? value = some handle) :
    (s.bodySession function bindings graph).handle? value = some handle := by
  obtain ⟨tag, tagged, holds⟩ := Option.bind_eq_some_iff.1 state
  obtain ⟨i, isObject, found⟩ := Option.bind_eq_some_iff.1 tagged
  have kind : s.kind? i = some (tag.classId, tag.handle.map Handle.builtin) := by
    rw [kind?, found, Option.map_some]
  have old : (s.bodySession function bindings graph).scopes.scopeAt i = s.scopes.scopeAt i := by
    rw [scopeAt_bodySession, if_neg (Nat.ne_of_lt (made_of_kind kind))]
  rw [handle?, tag?, isObject, Option.bind_some, old, found, Option.bind_some, holds]

end

/-! ## Calls -/

/-- The function is a method of the built-in class and is called on an object with a state of this
class. If the call gets to the body, all that the body does is to hand the method over to the state
of the receiver. -/
def Forwards (s : Session) (builtin : Builtin) (owner : ClassId) (f : FunctionId)
    (args : List Justified) (why : ReasonId) : Prop :=
  ∃ method params receiver rest handle, (method, params) ∈ builtin.methods ∧
    s.functionAt f = Builtin.function owner method params ∧ args = receiver :: rest ∧
    s.handle? receiver.value = some handle ∧ handle.builtin = builtin ∧
    ((∀ inner other, s.CallsAlike f args why inner other) ∨
      rest.length = params.length ∧ ∃ called begun,
        (∀ inner other : Inner, inner.exec (.invokeNative .builtin method params) called begun =
          other.exec (.invokeNative .builtin method params) called begun →
            s.CallsAlike f args why inner other) ∧
        begun.HandsOver builtin method params receiver rest)

/-- If a method of a built-in class is called at the moment, it is handed over as it should be. -/
def ForwardsAt (s : Session) (moment : Moment) : Prop :=
  ∀ f args why owner builtin, moment = .calling f args why →
    (s.functionAt f).owner = some owner → (s.classAt owner).builtin = some builtin →
      s.Forwards builtin owner f args why

/-- In a session that is wired, every call of a built-in method on a suitable receiver is handed
over as it should be. -/
lemma Wired.forwardsAt (h : s.Wired) {moment : Moment} (suits : s.Suits moment) :
    s.ForwardsAt moment := by
  rintro f args why owner builtin rfl owns isBuiltin
  obtain ⟨receiver, rest, rfl, -, state⟩ := suits f args why rfl owner owns
  obtain ⟨handle, found, ofClass⟩ := state builtin isBuiltin
  obtain ⟨⟨method, params⟩, declared, isMethod⟩ := h.wires f owner builtin owns isBuiltin
  refine ⟨method, params, receiver, rest, handle, declared, isMethod, rfl, found, ofClass, ?_⟩
  have single : (s.functionAt f).body = [.invokeNative .builtin method params] :=
    congrArg FunctionDef.body isMethod
  refine (callFunction_begins single (receiver :: rest) why).imp_right ?_
  rintro ⟨counts, bindings, graph, called, bound, alike⟩
  rw [isMethod] at counts bound
  obtain ⟨self, others⟩ := List.forall_mem_cons.1 bound
  have counts : rest.length = params.length := Nat.succ.inj counts
  refine ⟨counts, called, _, alike, handsOver_of_bound declared (tryGet_bodySession self) ?_
    (handle_bodySession found) ofClass⟩
  exact List.forall₂_iff_zip.2 ⟨counts.symm, fun mem => tryGet_bodySession (others _ mem)⟩

/-- In sessions that can come about, whatever method of a built-in class a program calls on an object
as its class has it, by an expression other than a call of `super` or by a statement, is handed over
to a state of this class that the receiver has, and the state knows the method and takes its
arguments. The states of a class are those that its constructor makes. What this rests on holds at
every moment of a run and after it. -/
theorem Reachable.natives_forwarded (h : s.Reachable) :
    s.InOrder ∧ s.Wired ∧
    (∀ program, s.KeepsThrough Wired (Because.runProgram · program)) ∧
    (∀ builtin args now handle later, Native.construct builtin args now = .done handle later →
      handle.builtin = builtin) ∧
    ∀ now : Session, now.InOrder → now.Wired →
      (∀ steps expr why, ¬ expr.CallsSuper →
        now.Directly steps (evalExpr · expr why) fun moment later => later.ForwardsAt moment) ∧
      ∀ steps stmt why,
        now.Directly steps (execStmt · stmt why) fun moment later => later.ForwardsAt moment := by
  have inOrder := h.inOrder
  have wired := h.keeps wired_kept blank_wired
  refine ⟨inOrder, wired, inOrder.keeps_program wired_kept wired,
    fun builtin args now handle later made => ?_, fun now inOrder wired => ⟨?_, ?_⟩⟩
  · obtain ⟨made', makes, ofClass, -⟩ | ⟨_, fails, -⟩ := Regime.construct_cases builtin args now
    · rw [makes] at made
      cases made
      exact ofClass
    · rw [fails] at made
      cases made
  · intro steps expr why noSuper
    exact directly_receives_expr inOrder wired_kept wired (fun _ wired _ => wired.forwardsAt) steps
      expr why fun calls => absurd calls noSuper
  · intro steps stmt why
    exact directly_receives_stmt inOrder wired_kept wired (fun _ wired _ => wired.forwardsAt) steps
      stmt why

/-- A call of a method of a new list. -/
theorem Reachable.natives_forwarded_of_start : (Session.start {} {}).Reachable ∧
    (Session.start {} {}).InOrder ∧ (Session.start {} {}).Wired ∧
    (Session.start {} {}).Directly 4
      (evalExpr · (.methodCall .builtin (.new .builtin "List" []) "getLength" []) 0)
      fun moment later => later.ForwardsAt moment := by
  have reachable := Reachable.start {} {}
  obtain ⟨inOrder, wired, -, -, calls⟩ := reachable.natives_forwarded
  exact ⟨reachable, inOrder, wired, (calls _ inOrder wired).1 4 _ 0 id⟩

end Session

end Because
