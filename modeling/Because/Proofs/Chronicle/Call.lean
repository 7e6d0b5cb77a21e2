import Because.Proofs.Chronicle.Basic
import Because.Proofs.Orderly.Object

/-!
# Chronicles of calls and objects

If there are chronicles of what lies inside a node, then there are chronicles of calls and of the
making of objects. A new object gets its class and its state before anything else is run.
-/

namespace Because

/-- Whatever lies inside a node has a chronicle, and is checked in the other way to run it. -/
structure Inner.Logged (inner : Inner) (w : Check → Inner) : Prop where
  eval (expr : Expr) (why : ReasonId) :
    Action.Logged (inner.eval expr why) fun c => (w c).eval expr why
  exec (stmt : Stmt) (why : ReasonId) :
    Action.Logged (inner.exec stmt why) fun c => (w c).exec stmt why
  call (id : FunctionId) (args : List Justified) (why : ReasonId) :
    Action.Logged (inner.call id args why) fun c => (w c).call id args why
  passes (c : Check) : (w c).passes = inner.passes

variable {inner : Inner} {w : Check → Inner}

open Because.Action

/-! ## Lists of nodes, and variables -/

/-- The log of arguments is that of the first one, and then that of the others. -/
lemma evalArgs_logged (h : inner.Logged w) (why : ReasonId) (args : List Expr) :
    Logged (evalArgs inner why args) fun c => evalArgs (w c) why args := by
  induction args with
  | nil => exact .pure _
  | cons arg rest ih =>
    apply Logged.bind (h.eval arg why)
    intro info
    apply Logged.bind ih
    intro infos
    exact .pure _

/-- The log of statements is that of the first one, and then that of the others, if it gets to them.
-/
lemma runStatements_logged (h : inner.Logged w) (why : ReasonId) (stmts : List Stmt) :
    Logged (runStatements inner why stmts) fun c => runStatements (w c) why stmts := by
  induction stmts with
  | nil => exact .pure _
  | cons stmt rest ih =>
    apply Logged.bind (h.exec stmt why)
    intro flow
    cases flow with
    | normal => exact ih
    | returned result => exact .pure _

/-- Reading a variable needs no log. -/
lemma lookupVariable_logged (name : String) (loc : Location) (why : ReasonId) :
    Bare (lookupVariable name loc why) := by
  apply Logged.bind (.ask _)
  intro scope
  apply Logged.bind (.ask _)
  intro found
  cases found with
  | ok stored =>
    apply Logged.bind (.ask _)
    intro rendered
    apply Logged.bind (.full _ _ _ _ _)
    intro read
    exact .pure _
  | error fault =>
    apply Logged.bind (.conj _ _)
    intro failed
    exact .fail _

/-! ## Calls -/

/-- Binding parameters needs no log. -/
lemma bindParams_logged (scope : ScopeId) (bound : List (String × Justified)) :
    Bare (bindParams scope bound) := by
  induction bound with
  | nil => exact .pure _
  | cons entry rest ih =>
    apply Logged.bind (.declare _ _ _)
    intro _
    exact ih

/-- Settling what a call returns needs no log. -/
lemma callResult_logged (function : FunctionDef) (flow : Flow) :
    Bare (callResult function flow) := by
  cases flow with
  | normal =>
    apply Logged.bind (.text _)
    intro fell
    exact .pure _
  | returned result =>
    obtain ⟨value, why⟩ := result
    cases value with
    | none =>
      apply Logged.bind (.conj _ _)
      intro returned
      exact .pure _
    | object scope => exact .pure _
    | _ =>
      exact .shown _ _

/-- The log of a function is that of its body. -/
lemma runFunction_logged (h : inner.Logged w) (function : FunctionDef)
    (args : List Justified) (why : ReasonId) :
    Logged (runFunction inner function args why) fun c => runFunction (w c) function args why := by
  apply Logged.bind (.newScope _ _)
  intro scope
  apply Logged.bind (bindParams_logged _ _)
  intro _
  apply Logged.bind (.conjAt _ _ _)
  intro called
  apply Logged.bind (.inScope (runStatements_logged h called function.body) scope)
  intro flow
  exact callResult_logged function flow

/-- Refusing a wrong number of arguments needs no log. -/
lemma refuseArgs_logged (function : FunctionDef) (args : List Justified) (why : ReasonId) :
    Bare (refuseArgs function args why) := by
  apply Logged.bind (.ask _)
  intro given
  apply Logged.bind (.conj _ _)
  intro failure
  exact .fail _

/-- The log of a call is that of the function, or empty if the call is refused. -/
lemma callFunction_logged (h : inner.Logged w) (id : FunctionId) (args : List Justified)
    (why : ReasonId) :
    Logged (callFunction inner id args why) fun c => callFunction (w c) id args why := by
  apply Logged.bind (.ask _)
  intro function
  split
  · exact .inCall (runFunction_logged h function args why) function.frame why
  · exact refuseArgs_logged function args why

/-! ## Functions and methods -/

/-- Finding the function that a name means needs no log. -/
lemma lookupFunction_logged (name : String) (why : ReasonId) :
    Bare (lookupFunction name why) := by
  apply Logged.bind (.ask _)
  intro scope
  apply Logged.bind (.ask _)
  intro found
  split
  · exact .pure _
  · exact .shown _ _

/-- Finding the function that answers to a method needs no log. -/
lemma findMethod_logged (id : ClassId) (method : String) (why : ReasonId) :
    Bare (findMethod id method why) := by
  apply Logged.bind (.ask _)
  intro classDef
  split
  · exact .pure _
  · exact .shown _ _

/-- The log of a method is that of the function that answers to it. -/
lemma callMethod_logged (h : inner.Logged w) (receiver : Justified) (method : String)
    (args : List Justified) (why : ReasonId) :
    Logged (callMethod inner receiver method args why) fun c =>
      callMethod (w c) receiver method args why := by
  apply Logged.bind (.ask _)
  intro found
  cases found with
  | none =>
    exact .shown _ _
  | some id =>
    apply Logged.bind (findMethod_logged id method why)
    intro function
    apply Logged.bind .unknown
    intro unknown
    exact h.call function _ why

/-! ## Classes -/

/-- Declaring the methods of a class needs no log. -/
lemma declareMethods_logged (id : ClassId) (implScope : ScopeId) (methods : List Function) :
    Bare (declareMethods id implScope methods) := by
  induction methods with
  | nil => exact .pure _
  | cons method rest ih =>
    apply Logged.bind (.text _)
    intro why
    apply Logged.bind (.define _)
    intro function
    apply Logged.bind (.declare _ _ _)
    intro _
    apply Logged.bind (.setMethod _ _ _)
    intro _
    exact ih

/-- Finding the parent of a class needs no log. -/
lemma findParent_logged (decl : Class) (why : ReasonId) :
    Bare (findParent decl why) := by
  unfold findParent
  cases decl.parent with
  | none => exact .pure _
  | some name =>
    apply Logged.bind (.ask _)
    intro found
    cases found with
    | none => exact .fail _
    | some id => exact .pure _

/-- Declaring a class needs no log. -/
lemma declareClass_logged (decl : Class) (why : ReasonId) :
    Bare (declareClass decl why) := by
  apply Logged.bind (findParent_logged decl why)
  intro parent
  apply Logged.bind (.ask _)
  intro parentDef
  apply Logged.bind (.newScope _ _)
  intro implScope
  apply Logged.bind (.defineClass _)
  intro id
  apply Logged.bind (.declare _ _ _)
  intro _
  exact declareMethods_logged id implScope decl.methods

/-! ## Objects -/

/-- Declaring the fields of an object needs no log. -/
lemma declareFields_logged (object : ScopeId) (fields : List String) :
    Bare (declareFields object fields) := by
  induction fields with
  | nil => exact .pure _
  | cons field rest ih =>
    apply Logged.bind (.text _)
    intro default
    apply Logged.bind (.declare _ _ _)
    intro _
    exact ih

/-- Giving an object its class needs no log: it has no state yet. -/
lemma tagClass_logged (object : ScopeId) (id : ClassId) :
    Bare (tagClass object id) := by
  apply Logged.bind (.text _)
  intro why
  exact .declare _ _ _

/-- The log of a constructor is that of its call. -/
lemma runConstructor_logged (h : inner.Logged w) (object : ScopeId) (id : ClassId)
    (args : List Justified) (nativeBacked : Bool) (why : ReasonId) :
    Logged (runConstructor inner object id args nativeBacked why) fun c =>
      runConstructor (w c) object id args nativeBacked why := by
  apply Logged.bind (.ask _)
  intro classDef
  split
  · split
    · exact .pure _
    · exact .fail _
  · apply Logged.bind (.text _)
    intro specified
    apply Logged.bind (h.call _ _ _)
    intro _
    exact .pure _

/-- The state of a new object holds nothing. -/
lemma construct_blank {builtin : Builtin} {args : List Justified} {s s' : Session} {handle : Handle}
    (made : Native.construct builtin args s = .done handle s') :
    handle.Blank := by
  cases builtin with
  | list | dict =>
    cases args with
    | nil =>
      cases made
      exact rfl
    | cons => cases made
  | string | bool | num =>
    match args with
    | [] | _ :: _ :: _ => cases made
    | [⟨value, why⟩] =>
      cases value <;> cases made
      all_goals trivial

/-- An object is made, and gets a state that holds nothing. -/
lemma attachHandle_calm {s s' : Session} {className : String} {id : ClassId}
    {args : List Justified} {why : ReasonId}
    (left : (attachHandle s.scopes.size className (s.nativeBuiltin? id) args why
      (s.withObject className id none s.graph [])).session? = some s') : s.Calm s' := by
  have calm (handle : Option Handle)
      (blank : ∀ made, handle = some made → made.Blank) :
      s.Calm (s.withObject className id handle s.graph []) := by
    have wide : s.Calm { s with nextObject := s.nextObject + 1 } := .elsewhere rfl
    refine wide.trans (.newScope fun tag made tagged same => ?_)
    cases tagged
    exact blank made same
  cases asked : s.nativeBuiltin? id with
  | none =>
    rw [asked] at left
    cases left
    exact calm none nofun
  | some builtin =>
    simp only [asked, attachHandle, Bind.bind, Native.toEval, Action.mapError] at left
    obtain ⟨handle, made, -⟩ | ⟨fault, fails, -⟩ :=
      Regime.construct_cases builtin args (s.withObject className id none s.graph [])
    · rw [made] at left
      simp only [Action.setHandle, Action.change, Session.withObject, Session.withScope,
        Scopes.update_push] at left
      cases left
      refine calm (some handle) fun made' same => ?_
      cases same
      exact construct_blank made
    · rw [fails] at left
      cases left
      exact calm none nofun

/-- The log of a new object is that of its constructor. -/
lemma constructUser_logged (h : inner.Logged w) (object : ScopeId) (id : ClassId)
    (args : List Justified) (nativeBacked : Bool) (why : ReasonId) :
    Logged (constructUser inner object id args nativeBacked why) fun c =>
      constructUser (w c) object id args nativeBacked why := by
  apply Logged.bind (.ask _)
  intro fields
  apply Logged.bind (declareFields_logged object fields)
  intro _
  apply Logged.bind (tagClass_logged object id)
  intro _
  exact runConstructor_logged h object id args nativeBacked why

/-- Recording the reason of a new object needs no log. -/
lemma describeNew_logged (object : ScopeId) (className : String) (args : List Justified)
    (why : ReasonId) :
    Bare (describeNew object className args why) := by
  apply Logged.bind (.ask _)
  intro given
  apply Logged.bind (.conj _ _)
  intro made
  exact .pure _

/-- The log of a new object is that of its construction, for every class. -/
lemma newObject_logged (h : inner.Logged w) (className : String) (args : List Justified)
    (why : ReasonId) :
    Logged (newObject inner className args why) fun c => newObject (w c) className args why := by
  intro s
  cases found : s.lookupClass? className with
  | none =>
    simp only [newObject, Bind.bind, Action.ask, found]
    exact Logged.fail _ s
  | some id =>
    simp only [Regime.newObject_eq args found]
    refine .bind (.quiet fun now left => attachHandle_calm left) fun _ => ?_
    apply Logged.bind (.ask _)
    intro classDef
    split
    · apply Logged.bind (tagClass_logged _ id)
      intro _
      exact describeNew_logged _ className args why
    · apply Logged.bind (constructUser_logged h _ id args _ why)
      intro _
      exact describeNew_logged _ className args why

/-- An object that explanations pass over has the log of any other one. -/
lemma newHiddenObject_logged (h : inner.Logged w) (className : String)
    (args : List Justified) (why : ReasonId) :
    Logged (newHiddenObject inner className args why) fun c =>
      newHiddenObject (w c) className args why := by
  apply Logged.bind (newObject_logged h className args why)
  intro result
  apply Logged.bind (.hide result.why)
  intro _
  exact .pure _

end Because

