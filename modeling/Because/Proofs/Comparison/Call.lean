import Because.Eval.Call
import Because.Proofs.Comparison.Action

/-!
# Comparing calls

The rules for one node are written against a record of how to run what lies inside. Two such
records match if they run the same node, for corresponding reasons, alike; and then every rule
matches itself.
-/

namespace Because

namespace Comparison

/-- Two ways to run what lies inside match on the expressions that satisfy `p` and the statements
that satisfy `q`. -/
structure Insides (C : Comparison) (p : Expr → Prop) (q : Stmt → Prop) (i j : Inner) : Prop where
  eval {c expr why} : p expr → c.reason why →
    C.Sim C.failures c C.Info (i.eval expr why) (j.eval expr (C.rename why))
  exec {c stmt why} : q stmt → c.reason why →
    C.Sim C.failures c C.Flows (i.exec stmt why) (j.exec stmt (C.rename why))
  call {c id args why} : c.function id → Justified.AllIn c args → c.reason why →
    C.Sim C.failures c C.Info (i.call id args why)
      (j.call id (args.map (Justified.rename C.rename)) (C.rename why))
  passes : C.tires → j.passes = i.passes

variable {C : Comparison} {c : Census} {p : Expr → Prop} {q : Stmt → Prop} {i j : Inner}
  {why : ReasonId}

/-! ## Lists of nodes, and variables -/

/-- Arguments match if the expressions do. -/
lemma evalArgs_sim (h : C.Insides p q i j) (hw : c.reason why) {args : List Expr}
    (ha : ∀ arg ∈ args, p arg) :
    C.Sim C.failures c C.Infos (evalArgs i why args) (evalArgs j (C.rename why) args) := by
  induction args generalizing c with
  | nil => exact .pure ⟨rfl, .nil⟩
  | cons arg rest ih =>
    obtain ⟨first, others⟩ := List.forall_mem_cons.1 ha
    unfold evalArgs
    apply Sim.bind_known (h.eval first hw)
    intro d info le hi
    apply Sim.bind_known (ih (le.reason hw) others)
    intro e infos le1 his
    exact .pure ⟨rfl, .cons (hi.mono le1) his⟩

/-- Statements match one after the other, up to a `return`. -/
lemma runStatements_sim (h : C.Insides p q i j) (hw : c.reason why) {stmts : List Stmt}
    (hs : ∀ stmt ∈ stmts, q stmt) :
    C.Sim C.failures c C.Flows (runStatements i why stmts)
      (runStatements j (C.rename why) stmts) := by
  induction stmts generalizing c with
  | nil => exact .pure ⟨rfl, trivial⟩
  | cons stmt rest ih =>
    obtain ⟨first, others⟩ := List.forall_mem_cons.1 hs
    unfold runStatements
    apply Sim.bind_known (h.exec first hw)
    intro d flow le hf
    cases flow with
    | normal => exact ih (le.reason hw) others
    | returned result => exact .pure ⟨rfl, hf⟩

variable [C.Lawful]

/-- Reading a variable matches itself. -/
lemma lookupVariable_sim (name : String) (loc : Location) (hw : c.reason why) :
    C.Sim C.failures c C.Info (lookupVariable name loc why)
      (lookupVariable name loc (C.rename why)) := by
  unfold lookupVariable
  apply Sim.bind_known .currentScope
  intro d scope le _
  apply Sim.bind (.ask (P := Attempt C.Info) fun pair => pair.get scope name)
  intro e stored other le1 answers
  have hw := le1.reason (le.reason hw)
  cases answers with
  | @ok stored _ known =>
    obtain ⟨rfl, hs⟩ := known
    apply Sim.bind_same (.render stored.value)
    intro f rendered le2
    apply Sim.bind_known (.full name rendered loc (le2.reason hw) (.one (le2.reason hs.why)))
    intro g read le3 own
    exact .pure ⟨rfl, hs.value.mono (le2.trans le3), own.reason⟩
  | @error fault plain =>
    apply Sim.bind_known (.conj fault.message (.one hw))
    intro f failed le2 own
    exact .because plain own.reason

/-! ## Calls -/

/-- Binding parameters to corresponding arguments matches. -/
lemma bindParams_sim {scope : ScopeId} (h : c.scope scope) (params : List String)
    {args : List Justified} (ha : Justified.AllIn c args) :
    C.Sim C.failures c Same (bindParams scope (params.zip args))
      (bindParams scope (params.zip (args.map (Justified.rename C.rename)))) := by
  induction params generalizing c args with
  | nil => exact .pure rfl
  | cons param params ih =>
    cases args with
    | nil => exact .pure rfl
    | cons arg args =>
      obtain ⟨first, others⟩ := List.forall_mem_cons.1 ha
      simp only [List.zip_cons_cons, List.map_cons, bindParams]
      apply Sim.bind_same (.declare param (.inl h) first)
      intro d _ le
      exact ih (le.scope h) (Justified.AllIn.mono le others)

/-- What a call returns matches if its body has ended alike. -/
lemma callResult_sim (function : FunctionDef) {flow : Flow} (hf : flow.In c) :
    C.Sim C.failures c C.Info (callResult function flow)
      (callResult function (flow.rename C.rename)) := by
  cases flow with
  | normal =>
    apply Sim.bind_known (.text _)
    intro d fell le own
    exact .pure ⟨rfl, .none own.reason⟩
  | returned result =>
    obtain ⟨value, why⟩ := result
    have known : Justified.In c ⟨value, why⟩ := hf
    cases value with
    | none =>
      apply Sim.bind_known (.conj _ (.one known.why))
      intro d returned le own
      exact .pure ⟨rfl, .none own.reason⟩
    | object scope => exact .pure ⟨rfl, known⟩
    | _ =>
      exact .refuseShown known.why fun _ => trivial

/-- The body of a function matches in a scope of its own. -/
lemma runFunction_sim (h : C.Insides p q i j) {function : FunctionDef}
    (hb : ∀ stmt ∈ function.body, q stmt) {args : List Justified} (ha : Justified.AllIn c args)
    (hw : c.reason why) (global : c.scope Session.globalScope) :
    C.Sim C.failures c C.Info (runFunction i function args why)
      (runFunction j function (args.map (Justified.rename C.rename)) (C.rename why)) := by
  unfold runFunction
  apply Sim.bind_known (.newScope _ global)
  intro d scope le hs
  apply Sim.bind_same (bindParams_sim hs function.params (Justified.AllIn.mono le ha))
  intro e _ le1
  apply Sim.bind_known (.conjAt _ function.loc (.one (le1.reason (le.reason hw))))
  intro f called le2 own
  apply Sim.bind_known (.inScope (le2.scope (le1.scope hs))
    (runStatements_sim h own.reason hb))
  intro g flow _ hf
  exact callResult_sim function hf

/-- Refusing a wrong number of arguments matches itself. -/
lemma refuseArgs_sim (function : FunctionDef) {args : List Justified}
    (ha : Justified.AllIn c args) (hw : c.reason why) :
    C.Sim C.failures c C.Info (refuseArgs function args why)
      (refuseArgs function (args.map (Justified.rename C.rename)) (C.rename why)) := by
  unfold refuseArgs
  apply Sim.bind_same (.renderAll args)
  intro d given le
  simp only [List.length_map]
  apply Sim.bind_known (.conj _ (.cons (le.reason hw) (.of (Justified.AllIn.mono le ha))))
  intro e failure _ own
  exact .because trivial own.reason

omit [C.Lawful] in
/-- The number of arguments decides whether a call begins, before there is room for it or not. -/
lemma callFunction_eq (inner : Inner) (id : FunctionId) (args : List Justified)
    (why : ReasonId) (s : Session) :
    callFunction inner id args why s =
      (if args.length = (s.functionAt id).params.length
        then Action.inCall (s.functionAt id).frame why
          (runFunction inner (s.functionAt id) args why)
        else refuseArgs (s.functionAt id) args why) s := rfl

/-- Calls match if they do so once the number of their arguments has been looked at. -/
lemma callFunction_ends_of {s t : Session} (pair : C.Pair c s t) (id : FunctionId)
    {args : List Justified} (ha : Justified.AllIn c args) (hw : c.reason why)
    (begins : args.length = (s.functionAt id).params.length →
      C.Ends C.failures c s t C.Info
        (Action.inCall (s.functionAt id).frame why (runFunction i (s.functionAt id) args why) s)
        (Action.inCall (s.functionAt id).frame (C.rename why) (runFunction j (s.functionAt id)
          (args.map (Justified.rename C.rename)) (C.rename why)) t)) :
    C.Ends C.failures c s t C.Info (callFunction i id args why s)
      (callFunction j id (args.map (Justified.rename C.rename)) (C.rename why) t) := by
  rw [callFunction_eq, callFunction_eq, (pair.functionAt id).1.1, List.length_map]
  split
  · rename_i fits
    exact begins fits
  · exact refuseArgs_sim _ ha hw s t pair

/-- A call in a session that has room for it, or in none of two that have no room. -/
lemma callFunction_ends (h : C.Insides p q i j) (hq : ∀ stmt, C.body stmt → q stmt)
    {s t : Session} (pair : C.Pair c s t) (id : FunctionId) {args : List Justified}
    (ha : Justified.AllIn c args) (hw : c.reason why)
    (room : args.length = (s.functionAt id).params.length → C.Room c (s.functionAt id).frame s t) :
    C.Ends C.failures c s t C.Info (callFunction i id args why s)
      (callFunction j id (args.map (Justified.rename C.rename)) (C.rename why) t) := by
  obtain ⟨⟨-, known⟩, bodies⟩ := pair.functionAt id
  apply callFunction_ends_of pair id ha hw
  intro fits
  exact .inCall pair (room fits) known hw
    (runFunction_sim h (fun stmt mem => hq stmt (bodies stmt mem)) ha hw pair.known.global)

/-! ## Functions and methods -/

/-- Finding the function that a name means matches itself. -/
lemma lookupFunction_sim (name : String) (hw : c.reason why) :
    C.Sim C.failures c (SameIn Census.function) (lookupFunction name why)
      (lookupFunction name (C.rename why)) := by
  unfold lookupFunction
  apply Sim.bind_known .currentScope
  intro d scope le _
  apply Sim.bind (.ask (P := Maybe C.Info) fun pair => pair.tryGet scope name)
  intro e found found' le1 rel
  have hw := le1.reason (le.reason hw)
  have refused : C.Sim C.failures e (SameIn Census.function)
      (do
        let place ← Action.describeScope scope
        Action.fail (.because (.undefinedFunction name place) why))
      (do
        let place ← Action.describeScope scope
        Action.fail (.because (.undefinedFunction name place) (C.rename why))) := by
    apply Sim.bind_same (.describeScope scope)
    intro f place le2
    exact .because trivial (le2.reason hw)
  cases rel with
  | none => exact refused
  | @some info _ known =>
    obtain ⟨rfl, hi⟩ := known
    obtain ⟨value, because⟩ := info
    cases value with
    | functionRef id => exact .pure ⟨rfl, hi.value⟩
    | _ => exact refused

/-- Finding the function that answers to a method matches itself. -/
lemma findMethod_sim (id : ClassId) (method : String) (hw : c.reason why) :
    C.Sim C.failures c (SameIn Census.function) (findMethod id method why)
      (findMethod id method (C.rename why)) := by
  unfold findMethod
  apply Sim.bind_known (.ask (P := SameIn ClassDef.In) fun pair => pair.classAt id)
  intro d classDef le hc
  cases e : classDef.methods.get? method with
  | some function => exact .pure ⟨rfl, hc.methods _ (Assoc.mem_of_get? e)⟩
  | none =>
    apply Sim.bind_same (.describeScope _)
    intro f place le1
    exact .because trivial (le1.reason (le.reason hw))

/-- Calling a method of corresponding receivers matches. -/
lemma callMethod_sim (h : C.Insides p q i j) {receiver : Justified} (hr : receiver.In c)
    (method : String) {args : List Justified} (ha : Justified.AllIn c args) (hw : c.reason why) :
    C.Sim C.failures c C.Info (callMethod i receiver method args why)
      (callMethod j (receiver.rename C.rename) method (args.map (Justified.rename C.rename))
        (C.rename why)) := by
  unfold callMethod
  apply Sim.bind (.ask (P := Maybe (SameIn Census.classId)) fun pair =>
    pair.classOf? receiver.value)
  intro d found found' le rel
  cases rel with
  | none =>
    exact .refuseShown (le.reason hr.why) fun _ => trivial
  | @some _ id known =>
    obtain ⟨rfl, -⟩ := known
    apply Sim.bind_known (findMethod_sim id method (le.reason hw))
    intro e function le1 hf
    apply Sim.bind_known .unknown
    intro f unknown le2 own
    have later := le.trans (le1.trans le2)
    exact h.call (le2.function hf)
      (.cons ⟨hr.value.mono later, own.reason⟩ (Justified.AllIn.mono later ha))
      (later.reason hw)

end Comparison

end Because
