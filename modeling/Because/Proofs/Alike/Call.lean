import Because.Eval.Object
import Because.Proofs.Alike.Basic

/-!
# Calls and objects that are alike

If two ways to run what lies inside a node are alike, then so are two calls that are run by them,
and what makes objects is alike as well.
-/

namespace Because

/-- The two ways to run what lies inside a node are alike while `calls` are in progress. -/
structure Inner.Alike (tells : Failure → Failure → Prop) (calls : CallStack) (i j : Inner) :
    Prop where
  eval (expr : Expr) (why : ReasonId) : Action.Alike tells calls (i.eval expr why) (j.eval expr why)
  exec (stmt : Stmt) (why : ReasonId) : Action.Alike tells calls (i.exec stmt why) (j.exec stmt why)
  call (id : FunctionId) (args : List Justified) (why : ReasonId) :
    Action.Alike tells calls (i.call id args why) (j.call id args why)
  passes : j.passes = i.passes

/-- A name that is not found is not a matter of room for calls. -/
lemma Scopes.get_plain {scopes : Scopes} {scope : ScopeId} {name : String} {fault : Fault}
    (fails : scopes.get scope name = .error fault) (n : Nat) : fault ≠ .recursionLimit n := by
  unfold Scopes.get at fails
  split at fails
  · cases fails
  · cases fails
    exact nofun

variable {tells : Failure → Failure → Prop} {calls : CallStack} {i j : Inner}

open Because.Action

/-! ## Lists of nodes, and variables -/

/-- Arguments are evaluated alike, one after the other. -/
lemma evalArgs_alike (h : i.Alike tells calls j) (why : ReasonId) (args : List Expr) :
    Alike tells calls (evalArgs i why args) (evalArgs j why args) := by
  induction args with
  | nil => exact .pure _
  | cons arg rest ih =>
    apply Alike.bind (h.eval arg why)
    intro info
    apply Alike.bind ih
    intro infos
    exact .pure _

/-- Statements run alike, one after the other, up to a `return`. -/
lemma runStatements_alike (h : i.Alike tells calls j) (why : ReasonId) (stmts : List Stmt) :
    Alike tells calls (runStatements i why stmts) (runStatements j why stmts) := by
  induction stmts with
  | nil => exact .pure _
  | cons stmt rest ih =>
    apply Alike.bind (h.exec stmt why)
    intro flow
    cases flow with
    | normal => exact ih
    | returned result => exact .pure _

variable [Telling tells]

/-- A variable is read alike, and is missing alike. -/
lemma lookupVariable_alike (name : String) (loc : Location) (why : ReasonId) :
    Alike tells calls (lookupVariable name loc why) (lookupVariable name loc why) := by
  apply Alike.bind (.ask _)
  intro scope
  apply Alike.bindAsk
  intro s
  cases found : s.scopes.get scope name with
  | ok stored =>
    apply Alike.bind (.ask _)
    intro rendered
    apply Alike.bind (.full _ _ _ _ _)
    intro read
    exact .pure _
  | error fault =>
    apply Alike.bind (.conj _ _)
    intro failed
    exact .because (Scopes.get_plain found)

/-! ## Calls -/

/-- Parameters are bound alike. -/
lemma bindParams_alike (scope : ScopeId) (bound : List (String × Justified)) :
    Alike tells calls (bindParams scope bound) (bindParams scope bound) := by
  induction bound with
  | nil => exact .pure _
  | cons entry rest ih =>
    apply Alike.bind (.declare _ _ _)
    intro _
    exact ih

/-- What a call returns is settled alike, however its body has ended. -/
lemma callResult_alike (function : FunctionDef) (flow : Flow) :
    Alike tells calls (callResult function flow) (callResult function flow) := by
  cases flow with
  | normal =>
    apply Alike.bind (.text _)
    intro fell
    exact .pure _
  | returned result =>
    obtain ⟨value, why⟩ := result
    cases value with
    | none =>
      apply Alike.bind (.conj _ _)
      intro returned
      exact .pure _
    | object scope => exact .pure _
    | _ =>
      exact .becauseShown nofun

/-- The body of a function runs alike if what lies inside it does. -/
lemma runFunction_alike (h : i.Alike tells calls j) (function : FunctionDef)
    (args : List Justified) (why : ReasonId) :
    Alike tells calls (runFunction i function args why) (runFunction j function args why) := by
  apply Alike.bind (.newScope _ _)
  intro scope
  apply Alike.bind (bindParams_alike _ _)
  intro _
  apply Alike.bind (.conjAt _ _ _)
  intro called
  apply Alike.bind (.inScope (runStatements_alike h called function.body) scope)
  intro flow
  exact callResult_alike function flow

/-- Calls with a wrong number of arguments are refused alike. -/
lemma refuseArgs_alike (function : FunctionDef) (args : List Justified) (why : ReasonId) :
    Alike tells calls (refuseArgs function args why) (refuseArgs function args why) := by
  apply Alike.bind (.ask _)
  intro given
  apply Alike.bind (.conj _ _)
  intro failure
  exact .because nofun

/-- A call is alike what does the same once the number of its arguments has been looked at. -/
lemma callFunction_alike {id : FunctionId} {args : List Justified} {why : ReasonId}
    {begin : FunctionDef → Eval Justified}
    (begins : ∀ function : FunctionDef, args.length = function.params.length →
      Alike tells calls (Action.inCall function.frame why (runFunction i function args why))
        (begin function)) :
    Alike tells calls (callFunction i id args why) (do
      let function ← Action.ask (·.functionAt id)
      if args.length = function.params.length then begin function
      else refuseArgs function args why) := by
  apply Alike.bind (.ask _)
  intro function
  split
  · rename_i fits
    exact begins function fits
  · exact refuseArgs_alike function args why

/-! ## Functions and methods -/

/-- The function that a name means is found alike. -/
lemma lookupFunction_alike (name : String) (why : ReasonId) :
    Alike tells calls (lookupFunction name why) (lookupFunction name why) := by
  apply Alike.bind (.ask _)
  intro scope
  apply Alike.bind (.ask _)
  intro found
  split
  · exact .pure _
  · exact .becauseShown nofun

/-- The function that answers to a method is found alike. -/
lemma findMethod_alike (id : ClassId) (method : String) (why : ReasonId) :
    Alike tells calls (findMethod id method why) (findMethod id method why) := by
  apply Alike.bind (.ask _)
  intro classDef
  split
  · exact .pure _
  · exact .becauseShown nofun

/-- Methods are called alike on any receiver. -/
lemma callMethod_alike (h : i.Alike tells calls j) (receiver : Justified) (method : String)
    (args : List Justified) (why : ReasonId) :
    Alike tells calls (callMethod i receiver method args why)
      (callMethod j receiver method args why) := by
  apply Alike.bind (.ask _)
  intro found
  cases found with
  | none =>
    exact .becauseShown nofun
  | some id =>
    apply Alike.bind (findMethod_alike id method why)
    intro function
    apply Alike.bind .unknown
    intro unknown
    exact h.call function _ why

/-! ## Classes -/

/-- The methods of a class are declared alike. -/
lemma declareMethods_alike (id : ClassId) (implScope : ScopeId) (methods : List Function) :
    Alike tells calls (declareMethods id implScope methods)
      (declareMethods id implScope methods) := by
  induction methods with
  | nil => exact .pure _
  | cons method rest ih =>
    apply Alike.bind (.text _)
    intro why
    apply Alike.bind (.define _)
    intro function
    apply Alike.bind (.declare _ _ _)
    intro _
    apply Alike.bind (.setMethod _ _ _)
    intro _
    exact ih

/-- The parent of a class is found alike, and is missing alike. -/
lemma findParent_alike (decl : Class) (why : ReasonId) :
    Alike tells calls (findParent decl why) (findParent decl why) := by
  unfold findParent
  cases decl.parent with
  | none => exact .pure _
  | some name =>
    apply Alike.bind (.ask _)
    intro found
    cases found with
    | none => exact .because nofun
    | some id => exact .pure _

/-- Classes are declared alike. -/
lemma declareClass_alike (decl : Class) (why : ReasonId) :
    Alike tells calls (declareClass decl why) (declareClass decl why) := by
  apply Alike.bind (findParent_alike decl why)
  intro parent
  apply Alike.bind (.ask _)
  intro parentDef
  apply Alike.bind (.newScope _ _)
  intro implScope
  apply Alike.bind (.defineClass _)
  intro id
  apply Alike.bind (.declare _ _ _)
  intro _
  exact declareMethods_alike id implScope decl.methods

/-! ## Objects -/

/-- The fields of an object are declared alike, each of them once. -/
lemma declareFields_alike (object : ScopeId) (fields : List String) :
    Alike tells calls (declareFields object fields) (declareFields object fields) := by
  induction fields with
  | nil => exact .pure _
  | cons field rest ih =>
    apply Alike.bind (.text _)
    intro default
    apply Alike.bind (.declare _ _ _)
    intro _
    exact ih

/-- An object gets its class alike. -/
lemma tagClass_alike (object : ScopeId) (id : ClassId) :
    Alike tells calls (tagClass object id) (tagClass object id) := by
  apply Alike.bind (.text _)
  intro why
  exact .declare _ _ _

/-- The constructor of a class runs alike on a new object. -/
lemma runConstructor_alike (h : i.Alike tells calls j) (object : ScopeId) (id : ClassId)
    (args : List Justified) (nativeBacked : Bool) (why : ReasonId) :
    Alike tells calls (runConstructor i object id args nativeBacked why)
      (runConstructor j object id args nativeBacked why) := by
  apply Alike.bind (.ask _)
  intro classDef
  split
  · split
    · exact .pure _
    · exact .because nofun
  · apply Alike.bind (.text _)
    intro specified
    apply Alike.bind (h.call _ _ _)
    intro _
    exact .pure _

omit [Telling tells] in
/-- A built-in method that takes no argument refuses all others alike. -/
lemma withNone_alike {α : Type} {method : String} {args : List Justified} {a b : Native α}
    (h : Alike (NativeFault.Tells tells) calls a b) :
    Alike (NativeFault.Tells tells) calls (Native.withNone method args a)
      (Native.withNone method args b) := by
  cases args with
  | nil => exact h
  | cons => exact .refuse nofun

omit [Telling tells] in
/-- A built-in method that takes one argument refuses any other number of them alike. -/
lemma withOne_alike {α : Type} {method : String} {args : List Justified}
    {f g : Justified → Native α}
    (h : ∀ arg, Alike (NativeFault.Tells tells) calls (f arg) (g arg)) :
    Alike (NativeFault.Tells tells) calls (Native.withOne method args f)
      (Native.withOne method args g) := by
  match args with
  | [arg] => exact h arg
  | [] => exact .refuse nofun
  | _ :: _ :: _ => exact .refuse nofun

omit [Telling tells] in
/-- A built-in method that takes two arguments refuses any other number of them alike. -/
lemma withTwo_alike {α : Type} {method : String} {args : List Justified}
    {f g : Justified → Justified → Native α}
    (h : ∀ first second, Alike (NativeFault.Tells tells) calls (f first second) (g first second)) :
    Alike (NativeFault.Tells tells) calls (Native.withTwo method args f)
      (Native.withTwo method args g) := by
  match args with
  | [first, second] => exact h first second
  | [] => exact .refuse nofun
  | [_] => exact .refuse nofun
  | _ :: _ :: _ :: _ => exact .refuse nofun

omit [Telling tells] in
/-- The states of built-in objects are made alike. -/
lemma construct_alike (builtin : Builtin) (args : List Justified) :
    Alike (NativeFault.Tells tells) calls (Native.construct builtin args)
      (Native.construct builtin args) := by
  cases builtin with
  | list | dict => exact withNone_alike (.pure _)
  | string | bool =>
    refine withOne_alike fun arg => ?_
    split
    · exact .pure _
    · exact .refuse nofun
  | num =>
    refine withOne_alike fun arg => ?_
    split
    · exact .pure _
    · exact .pure _
    · exact .refuse nofun

/-- A new object gets its built-in state alike. -/
lemma attachHandle_alike (object : ScopeId) (className : String) (builtin : Option Builtin)
    (args : List Justified) (why : ReasonId) :
    Alike tells calls (attachHandle object className builtin args why)
      (attachHandle object className builtin args why) := by
  cases builtin with
  | none => exact .pure _
  | some builtin =>
    apply Alike.bind (.toEval (construct_alike builtin args) className "new" why)
    intro handle
    exact .setHandle _ _

/-- An object of a class that a program declares is constructed alike. -/
lemma constructUser_alike (h : i.Alike tells calls j) (object : ScopeId) (id : ClassId)
    (args : List Justified) (nativeBacked : Bool) (why : ReasonId) :
    Alike tells calls (constructUser i object id args nativeBacked why)
      (constructUser j object id args nativeBacked why) := by
  apply Alike.bind (.ask _)
  intro fields
  apply Alike.bind (declareFields_alike object fields)
  intro _
  apply Alike.bind (tagClass_alike object id)
  intro _
  exact runConstructor_alike h object id args nativeBacked why

/-- The reason of a new object is recorded alike. -/
lemma describeNew_alike (object : ScopeId) (className : String) (args : List Justified)
    (why : ReasonId) :
    Alike tells calls (describeNew object className args why)
      (describeNew object className args why) := by
  apply Alike.bind (.ask _)
  intro given
  apply Alike.bind (.conj _ _)
  intro made
  exact .pure _

/-- Objects are made alike. -/
lemma newObject_alike (h : i.Alike tells calls j) (className : String) (args : List Justified)
    (why : ReasonId) :
    Alike tells calls (newObject i className args why) (newObject j className args why) := by
  apply Alike.bind (.ask _)
  intro found
  cases found with
  | none => exact .because nofun
  | some id =>
    apply Alike.bind .newObjectNumber
    intro number
    apply Alike.bind (.ask _)
    intro current
    apply Alike.bind (.newScope _ _)
    intro object
    apply Alike.bind (.setTag _ _)
    intro _
    apply Alike.bind (.ask _)
    intro builtin
    apply Alike.bind (attachHandle_alike object className builtin args why)
    intro _
    apply Alike.bind (.ask _)
    intro classDef
    dsimp only
    split
    · apply Alike.bind (tagClass_alike object id)
      intro _
      exact describeNew_alike object className args why
    · apply Alike.bind (constructUser_alike h object id args builtin.isSome why)
      intro _
      exact describeNew_alike object className args why

/-- Objects that explanations pass over are made alike. -/
lemma newHiddenObject_alike (h : i.Alike tells calls j) (className : String)
    (args : List Justified) (why : ReasonId) :
    Alike tells calls (newHiddenObject i className args why)
      (newHiddenObject j className args why) := by
  apply Alike.bind (newObject_alike h className args why)
  intro result
  apply Alike.bind (.hide result.why)
  intro _
  exact .pure _

end Because
