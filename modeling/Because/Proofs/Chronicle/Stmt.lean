import Because.Eval.Run
import Because.Proofs.Chronicle.Expr

/-!
# Chronicles of statements and programs

One step of the execution of a statement has a chronicle if what lies inside it does, and so has a
whole program. Statements that hand over to a method that changes a state are left to the events
that tell of them.
-/

namespace Because

variable {inner : Inner} {w : Check → Inner}

open Because.Action

/-! ## Variables and properties -/

/-- The log of an assignment is that of the value. -/
lemma execAssign_logged (h : inner.Logged w) (name : String) (value : Expr)
    (loc : Location) (why : ReasonId) :
    Logged (execAssign inner name value loc why) fun c => execAssign (w c) name value loc why := by
  apply Logged.bind (h.eval value why)
  intro result
  apply Logged.bind (.ask _)
  intro rendered
  apply Logged.bind (.full _ _ _ _ _)
  intro assigned
  apply Logged.bind (.ask _)
  intro current
  exact (Logged.assign current name _).forReason why

/-- The log of a declaration is that of the value. -/
lemma execDeclare_logged (h : inner.Logged w) (name : String) (value : Expr)
    (loc : Location) (why : ReasonId) :
    Logged (execDeclare inner name value loc why) fun c =>
      execDeclare (w c) name value loc why := by
  apply Logged.bind (.text _)
  intro default
  apply Logged.bind (.ask _)
  intro current
  apply Logged.bind ((Logged.declare current name _).forReason why)
  intro _
  exact execAssign_logged h name value loc why

/-- Finding the owner of a property needs no log. -/
lemma expectOwner_logged (owner : Justified) (property : String) :
    Bare (expectOwner owner property) := by
  unfold expectOwner
  split
  · apply Logged.bind (.ask _)
    intro bound
    split
    · exact .pure _
    · exact .shown _ _
  · exact .shown _ _

/-- The log of an assignment to a property is that of its owner and of the value. -/
lemma execSetProperty_logged (h : inner.Logged w) (owner : Expr) (property : String)
    (value : Expr) (loc : Location) (why : ReasonId) :
    Logged (execSetProperty inner owner property value loc why) fun c =>
      execSetProperty (w c) owner property value loc why := by
  apply Logged.bind (h.eval owner why)
  intro ownerInfo
  apply Logged.bind (expectOwner_logged ownerInfo property)
  intro object
  apply Logged.bind (h.eval value why)
  intro result
  apply Logged.bind (.ask _)
  intro shown
  apply Logged.bind (.ask _)
  intro rendered
  apply Logged.bind (.full _ _ _ _ _)
  intro assigned
  exact (Logged.assign object property _).forReason why

/-! ## Loops -/

/-- Taking the items that a loop visits needs no log. -/
lemma expectItems_logged (collection : Justified) :
    Bare (expectItems collection) := by
  apply Logged.bind (.ask _)
  intro handle
  split
  · exact .pure _
  · exact .shown _ _

/-- The log of the passes of a loop is that of the body, once for each item until it returns. -/
lemma forItems_logged (h : inner.Logged w) (loopScope : ScopeId) (name : String) (loc : Location)
    (body : List Stmt) (collectionWhy why : ReasonId) (items : List Justified) :
    Logged (forItems inner loopScope name loc body collectionWhy why items) fun c =>
      forItems (w c) loopScope name loc body collectionWhy why items := by
  induction items with
  | nil => exact .pure _
  | cons item rest ih =>
    apply Logged.bind (.ask _)
    intro rendered
    apply Logged.bind (.full _ _ _ _ _)
    intro pass
    apply Logged.bind (.assign _ _ _)
    intro _
    apply Logged.bind (.newScope _ _)
    intro scope
    apply Logged.bind (.inScope (runStatements_logged h pass body) scope)
    intro flow
    cases flow with
    | normal => exact ih
    | returned result => exact .pure _

/-- The log of a loop over a collection is that of the collection, and of the passes. -/
lemma forCollection_logged (h : inner.Logged w) (loopScope : ScopeId) (name : String)
    (values : Expr) (body : List Stmt) (why : ReasonId) :
    Logged (forCollection inner loopScope name values body why) fun c =>
      forCollection (w c) loopScope name values body why := by
  apply Logged.bind (h.eval values why)
  intro collection
  apply Logged.bind (.text _)
  intro initialized
  apply Logged.bind (.declare _ _ _)
  intro _
  apply Logged.bind (expectItems_logged collection)
  intro items
  exact forItems_logged h loopScope name values.loc body collection.why why items

/-- The log of a loop over items is that of the work in its scope. -/
lemma execForEach_logged (h : inner.Logged w) (name : String) (values : Expr)
    (body : List Stmt) (why : ReasonId) :
    Logged (execForEach inner name values body why) fun c =>
      execForEach (w c) name values body why := by
  apply Logged.bind (.ask _)
  intro current
  apply Logged.bind (.newScope _ _)
  intro loopScope
  exact .inScope (forCollection_logged h loopScope name values body why) loopScope

/-- The log of one pass of a conditional loop is that of the condition, and of the body if it holds.
-/
lemma whilePass_logged (h : inner.Logged w) (condition : Expr) (body : List Stmt)
    (loc : Location) (why : ReasonId) :
    Logged (whilePass inner condition body loc why) fun c =>
      whilePass (w c) condition body loc why := by
  apply Logged.bind (h.eval condition why)
  intro result
  apply Logged.bind (expectCondition_logged result condition)
  intro truth
  split
  · apply Logged.bind (.ask _)
    intro rendered
    apply Logged.bind (.full _ _ _ _ _)
    intro pass
    apply Logged.bind (runStatements_logged h pass body)
    intro flow
    exact .pure _
  · exact .pure _

/-- The log of a conditional loop is that of its passes. -/
lemma execWhile_logged (h : inner.Logged w) (condition : Expr) (body : List Stmt)
    (loc : Location) (why : ReasonId) (passes : Nat) :
    Logged (execWhile inner condition body loc why passes) fun c =>
      execWhile (w c) condition body loc why passes := by
  induction passes with
  | zero => exact .giveUp
  | succ passes ih =>
    apply Logged.bind (.ask _)
    intro current
    apply Logged.bind (.newScope _ _)
    intro scope
    apply Logged.bind (.inScope (whilePass_logged h condition body loc why) scope)
    intro flow
    split
    · exact .pure _
    · exact ih
    · exact .pure _

/-! ## Output -/

/-- The log of a text to be printed is that of the call of `toString`, if there is one. -/
lemma printableText_logged (h : inner.Logged w) (result : Justified) (why : ReasonId) :
    Logged (printableText inner result why) fun c => printableText (w c) result why := by
  apply Logged.bind (.ask _)
  intro found
  cases found with
  | some found => exact .pure _
  | none =>
    apply Logged.bind (.ask _)
    intro classId
    cases classId with
    | none => exact .ask _
    | some id =>
      apply Logged.bind (callMethod_logged h result "toString" [] why)
      intro converted
      exact .ask _

/-- The log of a print is that of the value, and of its text. -/
lemma execPrint_logged (h : inner.Logged w) (value : Expr) (why : ReasonId) :
    Logged (execPrint inner value why) fun c => execPrint (w c) value why := by
  apply Logged.bind (h.eval value why)
  intro result
  apply Logged.bind (printableText_logged h result why)
  intro shown
  exact .printLine _

/-- Printing an explanation needs no log. -/
lemma printExplanation_logged (id : ReasonId) (depth : Option Nat) :
    Bare (printExplanation id depth) := by
  apply Logged.bind (.ask _)
  intro found
  cases found with
  | ok explanation => exact .printLine _
  | error cause => exact .fail _

/-- Reading the depth of an explanation needs no log. -/
lemma expectDepth_logged (info : Justified) :
    Bare (expectDepth info) := by
  apply Logged.bind (.ask _)
  intro found
  split
  · split
    · exact .pure _
    · exact .shown _ _
  · exact .shown _ _

/-! ## All statements -/

/-- The log of a `return` is that of the value. -/
lemma execReturn_logged (h : inner.Logged w) (value : Expr) (loc : Location)
    (why : ReasonId) :
    Logged (execReturn inner value loc why) fun c => execReturn (w c) value loc why := by
  apply Logged.bind (h.eval value why)
  intro result
  apply Logged.bind (.ask _)
  intro rendered
  apply Logged.bind (.full _ _ _ _ _)
  intro returned
  exact .pure _

/-- The log of a choice is that of the condition, and of the branch that it chooses. -/
lemma execIf_logged (h : inner.Logged w) (condition : Expr)
    (thenBranch elseBranch : List Stmt) (why : ReasonId) :
    Logged (execIf inner condition thenBranch elseBranch why) fun c =>
      execIf (w c) condition thenBranch elseBranch why := by
  apply Logged.bind (h.eval condition why)
  intro result
  apply Logged.bind (expectCondition_logged result condition)
  intro truth
  split
  · exact runStatements_logged h result.why thenBranch
  · exact runStatements_logged h result.why elseBranch

/-- Declaring a function needs no log. -/
lemma execFunction_logged (decl : Function) (why : ReasonId) :
    Bare (execFunction decl why) := by
  apply Logged.bind (.define _)
  intro function
  apply Logged.bind (.ask _)
  intro current
  exact .declare current decl.name _

/-- A statement that ends normally once its work is done. -/
lemma thenNormal_logged {a : Eval Unit} {b : Check → Eval Unit} (h : Logged a b) :
    Logged (a >>= fun _ => (pure .normal : Eval Flow)) fun c => b c >>= fun _ => pure .normal :=
  .bind h fun _ => .pure _

/-- The statement hands over to a method that changes the state of its object. -/
def Stmt.Mutates : Stmt → Prop
  | .invokeNative _ method _ => method ∈ mutators
  | _ => False

/-- Each form of statement is logged if what lies inside it is, except that a state that is changed
by a method is an event of its own. -/
lemma execStmt_logged (h : inner.Logged w) {stmt : Stmt} (looks : ¬ stmt.Mutates) (why : ReasonId) :
    Logged (execStmt inner stmt why) fun c => execStmt (w c) stmt why := by
  cases stmt with
  | ifElse loc condition thenBranch elseBranch =>
    exact execIf_logged h condition thenBranch elseBranch why
  | forEach loc name values body => exact execForEach_logged h name values body why
  | whileDo loc condition body =>
    simp only [execStmt, h.passes]
    exact execWhile_logged h condition body loc why inner.passes
  | declare loc name value => exact thenNormal_logged (execDeclare_logged h name value loc why)
  | assign loc name value => exact thenNormal_logged (execAssign_logged h name value loc why)
  | ret loc value => exact execReturn_logged h value loc why
  | declareFunction loc decl => exact thenNormal_logged (execFunction_logged decl why)
  | declareClass loc decl => exact thenNormal_logged (declareClass_logged decl why)
  | effect loc value =>
    apply Logged.bind (h.eval value why)
    intro _
    exact .pure _
  | setProperty loc owner property value =>
    exact thenNormal_logged (execSetProperty_logged h owner property value loc why)
  | print loc value => exact thenNormal_logged (execPrint_logged h value why)
  | fullExplain loc value =>
    apply Logged.bind (h.eval value why)
    intro result
    exact thenNormal_logged (printExplanation_logged result.why none)
  | shortExplain loc value depth =>
    apply Logged.bind (h.eval value why)
    intro result
    apply Logged.bind (h.eval depth why)
    intro depthInfo
    apply Logged.bind (expectDepth_logged depthInfo)
    intro depth
    exact thenNormal_logged (printExplanation_logged result.why (some depth))
  | raise loc message => exact .fail _
  | invokeNative loc method params => exact invokeNative_logged h looks params loc why

/-- The log of a program is that of its statements, one after the other. -/
lemma runProgram_logged (h : inner.Logged w) (program : Program) :
    Logged (runProgram inner program) fun c => runProgram (w c) program := by
  induction program with
  | nil => exact .pure _
  | cons stmt rest ih =>
    apply Logged.bind (.text _)
    intro why
    apply Logged.bind (h.exec stmt why)
    intro flow
    cases flow with
    | normal => exact ih
    | returned result => exact .pure _

end Because

