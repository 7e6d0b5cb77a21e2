import Because.Eval.Expr
import Because.Proofs.Chronicle.Native

/-!
# Chronicles of expressions

One step of the evaluation of an expression has a chronicle if what lies inside it does.
-/

namespace Because

variable {inner : Inner} {w : Check → Inner}

open Because.Action

/-! ## Conditions and derived truth values -/

/-- Requiring a truth value of a condition needs no log. -/
lemma expectCondition_logged (result : Justified) (condition : Expr) :
    Bare (expectCondition result condition) := by
  apply Logged.bind (.ask _)
  intro found
  cases found with
  | some found => exact .pure _
  | none =>
    exact .shown _ _

/-- The log of a truth value that follows from an operand is that of the new object. -/
lemma derivedTruth_logged (h : inner.Logged w) (expr : Expr) (truth : Bool)
    (operand : Justified) (why : ReasonId) :
    Logged (derivedTruth inner expr truth operand why) fun c =>
      derivedTruth (w c) expr truth operand why := by
  apply Logged.bind (newHiddenObject_logged h "Bool" _ why)
  intro result
  apply Logged.bind (.ask _)
  intro rendered
  apply Logged.bind (.full _ _ _ _ _)
  intro derived
  exact .pure _

/-- Refusing objects as operands of an equality needs no log. -/
lemma refuseObject_logged (operand : Expr) (info : Justified) :
    Bare (refuseObject operand info) := by
  unfold refuseObject
  split
  · exact .shown _ _
  · exact .pure _

/-- The log of an equality is that of its sides, and of the new object. -/
lemma evalEq_logged (h : inner.Logged w) (expr left right : Expr) (why : ReasonId) :
    Logged (evalEq inner expr left right why) fun c => evalEq (w c) expr left right why := by
  apply Logged.bind (h.eval left why)
  intro first
  apply Logged.bind (h.eval right why)
  intro second
  apply Logged.bind (refuseObject_logged left first)
  intro _
  apply Logged.bind (refuseObject_logged right second)
  intro _
  apply Logged.bind (.ask _)
  intro firstText
  apply Logged.bind (.full _ _ _ _ _)
  intro firstWhy
  apply Logged.bind (.ask _)
  intro secondText
  apply Logged.bind (.full _ _ _ _ _)
  intro secondWhy
  apply Logged.bind (.conj _ _)
  intro compared
  exact newHiddenObject_logged h "Bool" _ why

/-! ## Properties and methods -/

/-- The log of a property is that of its owner. -/
lemma evalProperty_logged (h : inner.Logged w) (owner : Expr) (property : String)
    (loc : Location) (why : ReasonId) :
    Logged (evalProperty inner owner property loc why) fun c =>
      evalProperty (w c) owner property loc why := by
  apply Logged.bind (h.eval owner why)
  intro info
  apply Logged.bind (.ask _)
  intro rendered
  split
  · apply Logged.bind (.ask _)
    intro found
    split
    · exact .fail _
    · apply Logged.bind (.ask _)
      intro value
      apply Logged.bind (.full _ _ _ _ _)
      intro read
      exact .pure _
  · exact .fail _
  · exact .fail _

/-- Finding the class that serves a call on an object needs no log. -/
lemma dispatchObject_logged (target : Justified) (method : String) :
    Bare (dispatchObject target method) := by
  apply Logged.bind (.ask _)
  intro rendered
  apply Logged.bind (.ask _)
  intro found
  cases found with
  | some id =>
    apply Logged.bind (.ask _)
    intro classText
    apply Logged.bind (.text _)
    intro why
    exact .pure _
  | none => exact .fail _

/-- Finding the class that serves a call of `super` needs no log. -/
lemma dispatchSuper_logged (method : String) (why : ReasonId) :
    Bare (dispatchSuper method why) := by
  apply Logged.bind (.ask _)
  intro found
  cases found with
  | none =>
    exact .shown _ _
  | some owner =>
    apply Logged.bind (.ask _)
    intro ownerDef
    split
    · exact .fail _
    · apply Logged.bind (.ask _)
      intro parentDef
      apply Logged.bind (.text _)
      intro reason
      exact .pure _

/-- The log of a call in the table of a class is that of the arguments, and of the call itself. -/
lemma callIn_logged (h : inner.Logged w) (expr : Expr) (target : Justified)
    (served : ClassId × ReasonId) (method : String) (args : List Expr) (why : ReasonId) :
    Logged (callIn inner expr target served method args why) fun c =>
      callIn (w c) expr target served method args why := by
  apply Logged.bind (.ask _)
  intro name
  apply Logged.bind (.equal _ _ _)
  intro chosen
  apply Logged.bind (evalArgs_logged h why args)
  intro infos
  apply Logged.bind (.conjAt _ _ _)
  intro context
  apply Logged.bind (findMethod_logged _ method context)
  intro function
  apply Logged.bind (h.call function _ context)
  intro result
  apply Logged.bind (.ask _)
  intro rendered
  apply Logged.bind (.full _ _ _ _ _)
  intro called
  exact .pure _

/-- The log of a call on an object is that of the call in the table of its class. -/
lemma callOnObject_logged (h : inner.Logged w) (expr : Expr) (target : Justified)
    (method : String) (args : List Expr) (why : ReasonId) :
    Logged (callOnObject inner expr target method args why) fun c =>
      callOnObject (w c) expr target method args why := by
  apply Logged.bind (dispatchObject_logged target method)
  intro served
  exact callIn_logged h expr target served method args why

/-- The log of a call of `super` is that of the call in the table of the parent. -/
lemma callOnSuper_logged (h : inner.Logged w) (expr : Expr) (target : Justified)
    (method : String) (args : List Expr) (why : ReasonId) :
    Logged (callOnSuper inner expr target method args why) fun c =>
      callOnSuper (w c) expr target method args why := by
  apply Logged.bind (dispatchSuper_logged method why)
  intro served
  exact callIn_logged h expr target served method args why

/-! ## Questions and numerals -/

/-- The log of an answer is that of the new text, or empty at the end of the input. -/
lemma answerOf_logged (h : inner.Logged w) (prompt : String) (why : ReasonId)
    (line : Option String) :
    Logged (answerOf inner prompt why line) fun c => answerOf (w c) prompt why line := by
  cases line with
  | none => exact .fail _
  | some entered =>
    apply Logged.bind (.text _)
    intro answered
    apply Logged.bind .unknown
    intro unknown
    exact newObject_logged h "String" _ answered

/-- The log of a question is that of its answer. -/
lemma askFor_logged (h : inner.Logged w) (prompt : String) (why : ReasonId) :
    Logged (askFor inner prompt why) fun c => askFor (w c) prompt why := by
  -- The line is read with or without a prompt.
  have read : Logged (Action.readLine >>= answerOf inner prompt why) fun c =>
      Action.readLine >>= answerOf (w c) prompt why :=
    .bind .readLine fun line => answerOf_logged h prompt why line
  unfold askFor
  dsimp only
  split
  · exact .bind (.print prompt) fun _ => read
  · exact read

/-- The log of a number from a text is that of the operand, and of the new object. -/
lemma evalInt_logged (h : inner.Logged w) (expr : Expr) (why : ReasonId) :
    Logged (evalInt inner expr why) fun c => evalInt (w c) expr why := by
  apply Logged.bind (h.eval expr why)
  intro input
  apply Logged.bind (.ask _)
  intro found
  apply Logged.bind .unknown
  intro unknown
  exact newObject_logged h "Num" _ why

/-! ## Ranges and sums -/

/-- Reading a bound of a range needs no log. -/
lemma expectBound_logged (info : Justified) :
    Bare (expectBound info) := by
  apply Logged.bind (.ask _)
  intro found
  split
  · exact .pure _
  · exact .shown _ _

/-- Filling in a range is logged: each number is an event, besides the log of the new object. -/
lemma fillRange_logged (h : inner.Logged w) (list : Value) (why : ReasonId) (count : Nat)
    (number : Int) :
    Logged (fillRange inner list why count number) fun c =>
      fillRange (w c) list why count number := by
  induction count generalizing number with
  | zero => exact .pure _
  | succ count ih =>
    apply Logged.bind .unknown
    intro unknown
    apply Logged.bind (newHiddenObject_logged h "Num" _ why)
    intro item
    apply Logged.bind (.toEval (appendTo_logged list why item) "List" "append" why)
    intro _
    exact ih (number + 1)

/-- The log of a range is that of its bounds, of the new list and of its numbers. -/
lemma evalRange_logged (h : inner.Logged w) (expr low high : Expr) (why : ReasonId) :
    Logged (evalRange inner expr low high why) fun c => evalRange (w c) expr low high why := by
  apply Logged.bind (h.eval low why)
  intro lowInfo
  apply Logged.bind (h.eval high why)
  intro highInfo
  apply Logged.bind (expectBound_logged lowInfo)
  intro start
  apply Logged.bind (expectBound_logged highInfo)
  intro stop
  apply Logged.bind (newHiddenObject_logged h "List" [] why)
  intro list
  apply Logged.bind (fillRange_logged h list.value why _ start)
  intro _
  apply Logged.bind (.conj _ _)
  intro spanned
  exact .pure _

/-- Requiring operands of a sum needs no log. -/
lemma expectOperands_logged (expr : Expr) (infos : List Justified) :
    Bare (expectOperands expr infos) := by
  induction infos with
  | nil => exact .pure _
  | cons info rest ih =>
    unfold expectOperands
    split
    · exact ih
    · exact .shown _ _

/-- The log of joined operands is that of the calls of `plus` from the left. -/
lemma joinOperands_logged (h : inner.Logged w) (why : ReasonId) (sum : Justified)
    (infos : List Justified) :
    Logged (joinOperands inner why sum infos) fun c => joinOperands (w c) why sum infos := by
  induction infos generalizing sum with
  | nil => exact .pure _
  | cons other rest ih =>
    apply Logged.bind (callMethod_logged h sum "plus" [other] why)
    intro next
    split
    · exact ih next
    · exact .shown _ _

/-- The log of a sum is that of its operands, and of joining them. -/
lemma evalPlus_logged (h : inner.Logged w) (expr : Expr) (operands : List Expr)
    (why : ReasonId) :
    Logged (evalPlus inner expr operands why) fun c => evalPlus (w c) expr operands why := by
  apply Logged.bind (evalArgs_logged h why operands)
  intro infos
  apply Logged.bind (expectOperands_logged expr infos)
  intro _
  cases infos with
  | nil => exact .fail _
  | cons first rest =>
    apply Logged.bind (joinOperands_logged h why first rest)
    intro sum
    apply Logged.bind (.ask _)
    intro rendered
    apply Logged.bind (.full _ _ _ _ _)
    intro total
    exact .pure _

/-! ## All expressions -/

/-- The log of a creation is that of the arguments, and of the new object. -/
lemma evalNew_logged (h : inner.Logged w) (className : String) (args : List Expr)
    (why : ReasonId) :
    Logged (evalNew inner className args why) fun c => evalNew (w c) className args why := by
  apply Logged.bind (evalArgs_logged h why args)
  intro infos
  apply Logged.bind (.ask _)
  intro given
  apply Logged.bind (.conj _ _)
  intro context
  exact newObject_logged h className infos context

/-- The log of a call of a function is that of the arguments, and of the call itself. -/
lemma evalCall_logged (h : inner.Logged w) (name : String) (args : List Expr)
    (why : ReasonId) :
    Logged (evalCall inner name args why) fun c => evalCall (w c) name args why := by
  apply Logged.bind (evalArgs_logged h why args)
  intro infos
  apply Logged.bind (.ask _)
  intro given
  apply Logged.bind (.conj _ _)
  intro context
  apply Logged.bind (lookupFunction_logged name context)
  intro function
  exact h.call function infos context

/-- The log of a text with the number of a reason is that of the operand, and of the new object. -/
lemma evalWithId_logged (h : inner.Logged w) (expr : Expr) (why : ReasonId) :
    Logged (evalWithId inner expr why) fun c => evalWithId (w c) expr why := by
  apply Logged.bind (h.eval expr why)
  intro result
  apply Logged.bind (.ask _)
  intro found
  cases found with
  | error cause => exact .fail _
  | ok node =>
    apply Logged.bind (.ask _)
    intro rendered
    exact newHiddenObject_logged h "String" _ why

/-- Each form of expression is logged if what lies inside it is. -/
lemma evalExpr_logged (h : inner.Logged w) (expr : Expr) (why : ReasonId) :
    Logged (evalExpr inner expr why) fun c => evalExpr (w c) expr why := by
  cases expr with
  | const loc literal =>
    apply Logged.bind (.text _)
    intro written
    exact .pure _
  | get loc name => exact lookupVariable_logged name loc why
  | property loc owner property => exact evalProperty_logged h owner property loc why
  | new loc className args => exact evalNew_logged h className args why
  | eq loc left right => exact evalEq_logged h _ left right why
  | not loc operand =>
    apply Logged.bind (h.eval operand why)
    intro info
    apply Logged.bind (expectCondition_logged info operand)
    intro truth
    exact derivedTruth_logged h _ _ info why
  | isNone loc operand =>
    apply Logged.bind (h.eval operand why)
    intro info
    exact derivedTruth_logged h _ _ info why
  | plus loc operands => exact evalPlus_logged h _ operands why
  | concat loc operands => exact evalPlus_logged h _ operands why
  | call loc name args => exact evalCall_logged h name args why
  | methodCall loc object method args =>
    apply Logged.bind (h.eval object why)
    intro target
    exact callOnObject_logged h _ target method args why
  | selfCall loc method args =>
    apply Logged.bind (lookupVariable_logged selfName loc why)
    intro target
    exact callOnObject_logged h _ target method args why
  | superCall loc method args =>
    apply Logged.bind (lookupVariable_logged selfName loc why)
    intro target
    exact callOnSuper_logged h _ target method args why
  | withId loc operand => exact evalWithId_logged h operand why
  | range loc low high => exact evalRange_logged h _ low high why
  | ask loc => exact askFor_logged h "" why
  | askWith loc prompt =>
    apply Logged.bind (h.eval prompt why)
    intro info
    apply Logged.bind (.ask _)
    intro shown
    exact askFor_logged h shown why
  | int loc operand => exact evalInt_logged h operand why

end Because

