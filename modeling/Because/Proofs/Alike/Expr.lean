import Because.Eval.Expr
import Because.Proofs.Alike.Native

/-!
# Expressions that are alike

One step of the evaluation of an expression is alike for two ways to run what lies inside it that
are.
-/

namespace Because

variable {tells : Failure → Failure → Prop} [Telling tells] {calls : CallStack} {i j : Inner}

open Because.Action

/-! ## Conditions and derived truth values -/

/-- A condition comes to the same truth value alike, and is refused alike. -/
lemma expectCondition_alike (result : Justified) (condition : Expr) :
    Alike tells calls (expectCondition result condition) (expectCondition result condition) := by
  apply Alike.bind (.ask _)
  intro found
  cases found with
  | some found => exact .pure _
  | none =>
    exact .becauseShown nofun

/-- A truth value that follows from an operand is made alike. -/
lemma derivedTruth_alike (h : i.Alike tells calls j) (expr : Expr) (truth : Bool)
    (operand : Justified) (why : ReasonId) :
    Alike tells calls (derivedTruth i expr truth operand why)
      (derivedTruth j expr truth operand why) := by
  apply Alike.bind (newHiddenObject_alike h "Bool" _ why)
  intro result
  apply Alike.bind (.ask _)
  intro rendered
  apply Alike.bind (.full _ _ _ _ _)
  intro derived
  exact .pure _

/-- Objects are refused alike as operands of an equality. -/
lemma refuseObject_alike (operand : Expr) (info : Justified) :
    Alike tells calls (refuseObject operand info) (refuseObject operand info) := by
  unfold refuseObject
  split
  · exact .becauseShown nofun
  · exact .pure _

/-- An equality is evaluated alike. -/
lemma evalEq_alike (h : i.Alike tells calls j) (expr left right : Expr) (why : ReasonId) :
    Alike tells calls (evalEq i expr left right why) (evalEq j expr left right why) := by
  apply Alike.bind (h.eval left why)
  intro first
  apply Alike.bind (h.eval right why)
  intro second
  apply Alike.bind (refuseObject_alike left first)
  intro _
  apply Alike.bind (refuseObject_alike right second)
  intro _
  apply Alike.bind (.ask _)
  intro firstText
  apply Alike.bind (.full _ _ _ _ _)
  intro firstWhy
  apply Alike.bind (.ask _)
  intro secondText
  apply Alike.bind (.full _ _ _ _ _)
  intro secondWhy
  apply Alike.bind (.conj _ _)
  intro compared
  exact newHiddenObject_alike h "Bool" _ why

/-! ## Properties and methods -/

/-- A property is read alike. -/
lemma evalProperty_alike (h : i.Alike tells calls j) (owner : Expr) (property : String)
    (loc : Location) (why : ReasonId) :
    Alike tells calls (evalProperty i owner property loc why)
      (evalProperty j owner property loc why) := by
  apply Alike.bind (h.eval owner why)
  intro info
  apply Alike.bind (.ask _)
  intro rendered
  split
  · apply Alike.bindAsk
    intro s
    split
    · rename_i fault found
      exact .because (Scopes.get_plain found)
    · apply Alike.bind (.ask _)
      intro value
      apply Alike.bind (.full _ _ _ _ _)
      intro read
      exact .pure _
  · exact .because nofun
  · exact .because nofun

/-- The class that serves a call on an object is found alike. -/
lemma dispatchObject_alike (target : Justified) (method : String) :
    Alike tells calls (dispatchObject target method) (dispatchObject target method) := by
  apply Alike.bind (.ask _)
  intro rendered
  apply Alike.bind (.ask _)
  intro found
  cases found with
  | some id =>
    apply Alike.bind (.ask _)
    intro classText
    apply Alike.bind (.text _)
    intro why
    exact .pure _
  | none => exact .because nofun

/-- The class that serves a call of `super` is found alike, as the same calls are in progress. -/
lemma dispatchSuper_alike (method : String) (why : ReasonId) :
    Alike tells calls (dispatchSuper method why) (dispatchSuper method why) := by
  apply Alike.bind (.ask _)
  intro found
  cases found with
  | none =>
    exact .becauseShown nofun
  | some owner =>
    apply Alike.bind (.ask _)
    intro ownerDef
    split
    · exact .because nofun
    · apply Alike.bind (.ask _)
      intro parentDef
      apply Alike.bind (.text _)
      intro reason
      exact .pure _

/-- A method in the table of a class is called alike. -/
lemma callIn_alike (h : i.Alike tells calls j) (expr : Expr) (target : Justified)
    (served : ClassId × ReasonId) (method : String) (args : List Expr) (why : ReasonId) :
    Alike tells calls (callIn i expr target served method args why)
      (callIn j expr target served method args why) := by
  apply Alike.bind (.ask _)
  intro name
  apply Alike.bind (.equal _ _ _)
  intro chosen
  apply Alike.bind (evalArgs_alike h why args)
  intro infos
  apply Alike.bind (.conjAt _ _ _)
  intro context
  apply Alike.bind (findMethod_alike _ method context)
  intro function
  apply Alike.bind (h.call function _ context)
  intro result
  apply Alike.bind (.ask _)
  intro rendered
  apply Alike.bind (.full _ _ _ _ _)
  intro called
  exact .pure _

/-- A method of an object is called alike. -/
lemma callOnObject_alike (h : i.Alike tells calls j) (expr : Expr) (target : Justified)
    (method : String) (args : List Expr) (why : ReasonId) :
    Alike tells calls (callOnObject i expr target method args why)
      (callOnObject j expr target method args why) := by
  apply Alike.bind (dispatchObject_alike target method)
  intro served
  exact callIn_alike h expr target served method args why

/-- A method of the parent is called alike. -/
lemma callOnSuper_alike (h : i.Alike tells calls j) (expr : Expr) (target : Justified)
    (method : String) (args : List Expr) (why : ReasonId) :
    Alike tells calls (callOnSuper i expr target method args why)
      (callOnSuper j expr target method args why) := by
  apply Alike.bind (dispatchSuper_alike method why)
  intro served
  exact callIn_alike h expr target served method args why

/-! ## Questions and numerals -/

/-- The answer to a question becomes an object alike. -/
lemma answerOf_alike (h : i.Alike tells calls j) (prompt : String) (why : ReasonId)
    (line : Option String) :
    Alike tells calls (answerOf i prompt why line) (answerOf j prompt why line) := by
  cases line with
  | none => exact .because nofun
  | some entered =>
    apply Alike.bind (.text _)
    intro answered
    apply Alike.bind .unknown
    intro unknown
    exact newObject_alike h "String" _ answered

/-- A question is asked alike, and its answer taken alike. -/
lemma askFor_alike (h : i.Alike tells calls j) (prompt : String) (why : ReasonId) :
    Alike tells calls (askFor i prompt why) (askFor j prompt why) := by
  -- The line is read with or without a prompt.
  have read : Alike tells calls (Action.readLine >>= answerOf i prompt why)
      (Action.readLine >>= answerOf j prompt why) :=
    .bind .readLine fun line => answerOf_alike h prompt why line
  unfold askFor
  dsimp only
  split
  · exact .bind (.print prompt) fun _ => read
  · exact read

/-- The number that a text denotes is made alike. -/
lemma evalInt_alike (h : i.Alike tells calls j) (expr : Expr) (why : ReasonId) :
    Alike tells calls (evalInt i expr why) (evalInt j expr why) := by
  apply Alike.bind (h.eval expr why)
  intro input
  apply Alike.bind (.ask _)
  intro found
  apply Alike.bind .unknown
  intro unknown
  exact newObject_alike h "Num" _ why

/-! ## Ranges and sums -/

/-- A bound of a range is read alike, and is refused alike. -/
lemma expectBound_alike (info : Justified) :
    Alike tells calls (expectBound info) (expectBound info) := by
  apply Alike.bind (.ask _)
  intro found
  split
  · exact .pure _
  · exact .becauseShown nofun

/-- The numbers of a range are filled in alike. -/
lemma fillRange_alike (h : i.Alike tells calls j) (list : Value) (why : ReasonId) (count : Nat)
    (number : Int) :
    Alike tells calls (fillRange i list why count number)
      (fillRange j list why count number) := by
  induction count generalizing number with
  | zero => exact .pure _
  | succ count ih =>
    apply Alike.bind .unknown
    intro unknown
    apply Alike.bind (newHiddenObject_alike h "Num" _ why)
    intro item
    apply Alike.bind (.toEval (appendTo_alike list why item) "List" "append" why)
    intro _
    exact ih (number + 1)

/-- A range is evaluated alike. -/
lemma evalRange_alike (h : i.Alike tells calls j) (expr low high : Expr) (why : ReasonId) :
    Alike tells calls (evalRange i expr low high why) (evalRange j expr low high why) := by
  apply Alike.bind (h.eval low why)
  intro lowInfo
  apply Alike.bind (h.eval high why)
  intro highInfo
  apply Alike.bind (expectBound_alike lowInfo)
  intro start
  apply Alike.bind (expectBound_alike highInfo)
  intro stop
  apply Alike.bind (newHiddenObject_alike h "List" [] why)
  intro list
  apply Alike.bind (fillRange_alike h list.value why _ start)
  intro _
  apply Alike.bind (.conj _ _)
  intro spanned
  exact .pure _

/-- The operands of a sum are required alike. -/
lemma expectOperands_alike (expr : Expr) (infos : List Justified) :
    Alike tells calls (expectOperands expr infos) (expectOperands expr infos) := by
  induction infos with
  | nil => exact .pure _
  | cons info rest ih =>
    unfold expectOperands
    split
    · exact ih
    · exact .becauseShown nofun

/-- Operands are joined alike from the left. -/
lemma joinOperands_alike (h : i.Alike tells calls j) (why : ReasonId) (sum : Justified)
    (infos : List Justified) :
    Alike tells calls (joinOperands i why sum infos) (joinOperands j why sum infos) := by
  induction infos generalizing sum with
  | nil => exact .pure _
  | cons other rest ih =>
    apply Alike.bind (callMethod_alike h sum "plus" [other] why)
    intro next
    split
    · exact ih next
    · exact .becauseShown nofun

/-- A sum of operands is evaluated alike. -/
lemma evalPlus_alike (h : i.Alike tells calls j) (expr : Expr) (operands : List Expr)
    (why : ReasonId) :
    Alike tells calls (evalPlus i expr operands why) (evalPlus j expr operands why) := by
  apply Alike.bind (evalArgs_alike h why operands)
  intro infos
  apply Alike.bind (expectOperands_alike expr infos)
  intro _
  cases infos with
  | nil => exact .because nofun
  | cons first rest =>
    apply Alike.bind (joinOperands_alike h why first rest)
    intro sum
    apply Alike.bind (.ask _)
    intro rendered
    apply Alike.bind (.full _ _ _ _ _)
    intro total
    exact .pure _

/-! ## All expressions -/

/-- The creation of an object is evaluated alike. -/
lemma evalNew_alike (h : i.Alike tells calls j) (className : String) (args : List Expr)
    (why : ReasonId) :
    Alike tells calls (evalNew i className args why) (evalNew j className args why) := by
  apply Alike.bind (evalArgs_alike h why args)
  intro infos
  apply Alike.bind (.ask _)
  intro given
  apply Alike.bind (.conj _ _)
  intro context
  exact newObject_alike h className infos context

/-- A call of a function is evaluated alike. -/
lemma evalCall_alike (h : i.Alike tells calls j) (name : String) (args : List Expr)
    (why : ReasonId) :
    Alike tells calls (evalCall i name args why) (evalCall j name args why) := by
  apply Alike.bind (evalArgs_alike h why args)
  intro infos
  apply Alike.bind (.ask _)
  intro given
  apply Alike.bind (.conj _ _)
  intro context
  apply Alike.bind (lookupFunction_alike name context)
  intro function
  exact h.call function infos context

/-- The text of a value with the number of its reason is made alike. -/
lemma evalWithId_alike (h : i.Alike tells calls j) (expr : Expr) (why : ReasonId) :
    Alike tells calls (evalWithId i expr why) (evalWithId j expr why) := by
  apply Alike.bind (h.eval expr why)
  intro result
  apply Alike.bind (.ask _)
  intro found
  cases found with
  | error cause => exact .fail (Telling.fresh (.graph cause))
  | ok node =>
    apply Alike.bind (.ask _)
    intro rendered
    exact newHiddenObject_alike h "String" _ why

/-- Each form of expression is evaluated alike if what lies inside it is. -/
lemma evalExpr_alike (h : i.Alike tells calls j) (expr : Expr) (why : ReasonId) :
    Alike tells calls (evalExpr i expr why) (evalExpr j expr why) := by
  cases expr with
  | const loc literal =>
    apply Alike.bind (.text _)
    intro written
    exact .pure _
  | get loc name => exact lookupVariable_alike name loc why
  | property loc owner property => exact evalProperty_alike h owner property loc why
  | new loc className args => exact evalNew_alike h className args why
  | eq loc left right => exact evalEq_alike h _ left right why
  | not loc operand =>
    apply Alike.bind (h.eval operand why)
    intro info
    apply Alike.bind (expectCondition_alike info operand)
    intro truth
    exact derivedTruth_alike h _ _ info why
  | isNone loc operand =>
    apply Alike.bind (h.eval operand why)
    intro info
    exact derivedTruth_alike h _ _ info why
  | plus loc operands => exact evalPlus_alike h _ operands why
  | concat loc operands => exact evalPlus_alike h _ operands why
  | call loc name args => exact evalCall_alike h name args why
  | methodCall loc object method args =>
    apply Alike.bind (h.eval object why)
    intro target
    exact callOnObject_alike h _ target method args why
  | selfCall loc method args =>
    apply Alike.bind (lookupVariable_alike selfName loc why)
    intro target
    exact callOnObject_alike h _ target method args why
  | superCall loc method args =>
    apply Alike.bind (lookupVariable_alike selfName loc why)
    intro target
    exact callOnSuper_alike h _ target method args why
  | withId loc operand => exact evalWithId_alike h operand why
  | range loc low high => exact evalRange_alike h _ low high why
  | ask loc => exact askFor_alike h "" why
  | askWith loc prompt =>
    apply Alike.bind (h.eval prompt why)
    intro info
    apply Alike.bind (.ask _)
    intro shown
    exact askFor_alike h shown why
  | int loc operand => exact evalInt_alike h operand why

end Because
