import Because.Eval.Run
import Because.Proofs.Alike.Expr

/-!
# Statements and programs that are alike

One step of the execution of a statement is alike for two ways to run what lies inside it that are,
and so is a whole program.
-/

namespace Because

variable {tells : Failure → Failure → Prop} [Telling tells] {calls : CallStack} {i j : Inner}

open Because.Action

/-! ## Variables and properties -/

/-- An assignment runs alike. -/
lemma execAssign_alike (h : i.Alike tells calls j) (name : String) (value : Expr)
    (loc : Location) (why : ReasonId) :
    Alike tells calls (execAssign i name value loc why) (execAssign j name value loc why) := by
  apply Alike.bind (h.eval value why)
  intro result
  apply Alike.bind (.ask _)
  intro rendered
  apply Alike.bind (.full _ _ _ _ _)
  intro assigned
  apply Alike.bind (.ask _)
  intro current
  exact .assignFor current name _ why

/-- A declaration of a variable runs alike. -/
lemma execDeclare_alike (h : i.Alike tells calls j) (name : String) (value : Expr)
    (loc : Location) (why : ReasonId) :
    Alike tells calls (execDeclare i name value loc why) (execDeclare j name value loc why) := by
  apply Alike.bind (.text _)
  intro default
  apply Alike.bind (.ask _)
  intro current
  apply Alike.bind (.declareFor current name _ why)
  intro _
  exact execAssign_alike h name value loc why

/-- The owner of a property that is to be changed is found alike. -/
lemma expectOwner_alike (owner : Justified) (property : String) :
    Alike tells calls (expectOwner owner property) (expectOwner owner property) := by
  unfold expectOwner
  split
  · apply Alike.bind (.ask _)
    intro bound
    split
    · exact .pure _
    · exact .becauseShown nofun
  · exact .becauseShown nofun

/-- An assignment to a property runs alike. -/
lemma execSetProperty_alike (h : i.Alike tells calls j) (owner : Expr) (property : String)
    (value : Expr) (loc : Location) (why : ReasonId) :
    Alike tells calls (execSetProperty i owner property value loc why)
      (execSetProperty j owner property value loc why) := by
  apply Alike.bind (h.eval owner why)
  intro ownerInfo
  apply Alike.bind (expectOwner_alike ownerInfo property)
  intro object
  apply Alike.bind (h.eval value why)
  intro result
  apply Alike.bind (.ask _)
  intro shown
  apply Alike.bind (.ask _)
  intro rendered
  apply Alike.bind (.full _ _ _ _ _)
  intro assigned
  exact .assignFor object property _ why

/-! ## Loops -/

/-- The items that a loop visits are taken alike. -/
lemma expectItems_alike (collection : Justified) :
    Alike tells calls (expectItems collection) (expectItems collection) := by
  apply Alike.bind (.ask _)
  intro handle
  split
  · exact .pure _
  · exact .becauseShown nofun

/-- The scope of the loop binds the name, so that no pass fails to assign an item to it. -/
lemma forItems_alike (h : i.Alike tells calls j) {loopScope : ScopeId} {name : String}
    (loc : Location) (body : List Stmt) (collectionWhy why : ReasonId) (items : List Justified)
    {s : Session} (now : s.calls = calls) (bound : s.scopes.binds loopScope name = true) :
    (forItems i loopScope name loc body collectionWhy why items s).Alike tells s
      (forItems j loopScope name loc body collectionWhy why items s) := by
  induction items generalizing s with
  | nil => exact .done (.refl s)
  | cons item rest ih =>
    refine .bind (Alike.ask _ s now) fun rendered s1 le1 _ => ?_
    have now1 := le1.calls.trans now
    refine .bind (Alike.full _ _ _ _ _ s1 now1) fun pass s2 le2 _ => ?_
    have now2 := le2.calls.trans now1
    have bound2 := le2.binds _ _ (le1.binds _ _ bound)
    refine .bind (Alike.assignBound bound2) fun _ s3 le3 _ => ?_
    have now3 := le3.calls.trans now2
    refine .bind (Alike.newScope _ _ s3 now3) fun scope s4 le4 _ => ?_
    have now4 := le4.calls.trans now3
    refine .bind (Alike.inScope (runStatements_alike h pass body) scope s4 now4)
      fun flow s5 le5 _ => ?_
    cases flow with
    | normal =>
      exact ih (le5.calls.trans now4)
        (le5.binds _ _ (le4.binds _ _ (le3.binds _ _ bound2)))
    | returned result => exact .done (.refl s5)

/-- The loop declares its variable in a scope that is there. -/
lemma forCollection_alike (h : i.Alike tells calls j) {loopScope : ScopeId} (name : String)
    (values : Expr) (body : List Stmt) (why : ReasonId) {s : Session} (now : s.calls = calls)
    (made : Nat.lt loopScope s.scopes.size) :
    (forCollection i loopScope name values body why s).Alike tells s
      (forCollection j loopScope name values body why s) := by
  refine .bind (h.eval values why s now) fun collection s1 le1 _ => ?_
  have now1 := le1.calls.trans now
  refine .bind (Alike.text _ s1 now1) fun initialized s2 le2 _ => ?_
  have made2 : Nat.lt loopScope s2.scopes.size :=
    Nat.lt_of_lt_of_le made (Nat.le_trans le1.scopes le2.scopes)
  have now2 := le2.calls.trans now1
  -- From here on the scope binds the name, unless it is refused.
  refine .bind (Alike.declare _ _ _ s2 now2) fun _ s3 le3 declared => ?_
  have now3 := le3.calls.trans now2
  have bound := Action.binds_of_declare made2 declared
  refine .bind (expectItems_alike collection s3 now3) fun items s4 le4 _ => ?_
  exact forItems_alike h values.loc body collection.why why items (le4.calls.trans now3)
    (le4.binds _ _ bound)

/-- A loop over items runs alike. -/
lemma execForEach_alike (h : i.Alike tells calls j) (name : String) (values : Expr)
    (body : List Stmt) (why : ReasonId) :
    Alike tells calls (execForEach i name values body why)
      (execForEach j name values body why) := by
  apply Alike.bind (.ask _)
  intro current s now
  refine .bind (Alike.newScope _ _ s now) fun loopScope s1 le1 made => ?_
  cases made
  refine .inScope (forCollection_alike h name values body why now ?_)
  simp only [Scopes.size_push]
  exact Nat.lt_succ_self _

/-- One pass of a conditional loop runs alike. -/
lemma whilePass_alike (h : i.Alike tells calls j) (condition : Expr) (body : List Stmt)
    (loc : Location) (why : ReasonId) :
    Alike tells calls (whilePass i condition body loc why)
      (whilePass j condition body loc why) := by
  apply Alike.bind (h.eval condition why)
  intro result
  apply Alike.bind (expectCondition_alike result condition)
  intro truth
  split
  · apply Alike.bind (.ask _)
    intro rendered
    apply Alike.bind (.full _ _ _ _ _)
    intro pass
    apply Alike.bind (runStatements_alike h pass body)
    intro flow
    exact .pure _
  · exact .pure _

/-- A conditional loop runs alike through all of its passes. -/
lemma execWhile_alike (h : i.Alike tells calls j) (condition : Expr) (body : List Stmt)
    (loc : Location) (why : ReasonId) (passes : Nat) :
    Alike tells calls (execWhile i condition body loc why passes)
      (execWhile j condition body loc why passes) := by
  induction passes with
  | zero => exact .giveUp
  | succ passes ih =>
    apply Alike.bind (.ask _)
    intro current
    apply Alike.bind (.newScope _ _)
    intro scope
    apply Alike.bind (.inScope (whilePass_alike h condition body loc why) scope)
    intro flow
    split
    · exact .pure _
    · exact ih
    · exact .pure _

/-! ## Output -/

/-- What is printed of a value is found alike. -/
lemma printableText_alike (h : i.Alike tells calls j) (result : Justified) (why : ReasonId) :
    Alike tells calls (printableText i result why) (printableText j result why) := by
  apply Alike.bind (.ask _)
  intro found
  cases found with
  | some found => exact .pure _
  | none =>
    apply Alike.bind (.ask _)
    intro classId
    cases classId with
    | none => exact .ask _
    | some id =>
      apply Alike.bind (callMethod_alike h result "toString" [] why)
      intro converted
      exact .ask _

/-- A print runs alike. -/
lemma execPrint_alike (h : i.Alike tells calls j) (value : Expr) (why : ReasonId) :
    Alike tells calls (execPrint i value why) (execPrint j value why) := by
  apply Alike.bind (h.eval value why)
  intro result
  apply Alike.bind (printableText_alike h result why)
  intro shown
  exact .printLine _

/-- An explanation is printed alike. -/
lemma printExplanation_alike (id : ReasonId) (depth : Option Nat) :
    Alike tells calls (printExplanation id depth) (printExplanation id depth) := by
  apply Alike.bind (.ask _)
  intro found
  cases found with
  | ok explanation => exact .printLine _
  | error cause => exact .fail (Telling.fresh (.graph cause))

/-- The depth of an explanation is read alike, and is refused alike. -/
lemma expectDepth_alike (info : Justified) :
    Alike tells calls (expectDepth info) (expectDepth info) := by
  apply Alike.bind (.ask _)
  intro found
  split
  · split
    · exact .pure _
    · exact .becauseShown nofun
  · exact .becauseShown nofun

/-! ## All statements -/

/-- A `return` runs alike. -/
lemma execReturn_alike (h : i.Alike tells calls j) (value : Expr) (loc : Location)
    (why : ReasonId) :
    Alike tells calls (execReturn i value loc why) (execReturn j value loc why) := by
  apply Alike.bind (h.eval value why)
  intro result
  apply Alike.bind (.ask _)
  intro rendered
  apply Alike.bind (.full _ _ _ _ _)
  intro returned
  exact .pure _

/-- The branch that a condition chooses runs alike. -/
lemma execIf_alike (h : i.Alike tells calls j) (condition : Expr)
    (thenBranch elseBranch : List Stmt) (why : ReasonId) :
    Alike tells calls (execIf i condition thenBranch elseBranch why)
      (execIf j condition thenBranch elseBranch why) := by
  apply Alike.bind (h.eval condition why)
  intro result
  apply Alike.bind (expectCondition_alike result condition)
  intro truth
  split
  · exact runStatements_alike h result.why thenBranch
  · exact runStatements_alike h result.why elseBranch

/-- The declaration of a function runs alike. -/
lemma execFunction_alike (decl : Function) (why : ReasonId) :
    Alike tells calls (execFunction decl why) (execFunction decl why) := by
  apply Alike.bind (.define _)
  intro function
  apply Alike.bind (.ask _)
  intro current
  exact .declare current decl.name _

omit [Telling tells] in
/-- A statement that ends normally once its work is done. -/
lemma thenNormal {a b : Eval Unit} (h : Alike tells calls a b) :
    Alike tells calls (a >>= fun _ => (pure .normal : Eval Flow)) (b >>= fun _ => pure .normal) :=
  .bind h fun _ => .pure _

/-- Each form of statement runs alike if what lies inside it does. -/
lemma execStmt_alike (h : i.Alike tells calls j) (stmt : Stmt) (why : ReasonId) :
    Alike tells calls (execStmt i stmt why) (execStmt j stmt why) := by
  cases stmt with
  | ifElse loc condition thenBranch elseBranch =>
    exact execIf_alike h condition thenBranch elseBranch why
  | forEach loc name values body => exact execForEach_alike h name values body why
  | whileDo loc condition body =>
    simp only [execStmt, h.passes]
    exact execWhile_alike h condition body loc why i.passes
  | declare loc name value => exact thenNormal (execDeclare_alike h name value loc why)
  | assign loc name value => exact thenNormal (execAssign_alike h name value loc why)
  | ret loc value => exact execReturn_alike h value loc why
  | declareFunction loc decl => exact thenNormal (execFunction_alike decl why)
  | declareClass loc decl => exact thenNormal (declareClass_alike decl why)
  | effect loc value =>
    apply Alike.bind (h.eval value why)
    intro _
    exact .pure _
  | setProperty loc owner property value =>
    exact thenNormal (execSetProperty_alike h owner property value loc why)
  | print loc value => exact thenNormal (execPrint_alike h value why)
  | fullExplain loc value =>
    apply Alike.bind (h.eval value why)
    intro result
    exact thenNormal (printExplanation_alike result.why none)
  | shortExplain loc value depth =>
    apply Alike.bind (h.eval value why)
    intro result
    apply Alike.bind (h.eval depth why)
    intro depthInfo
    apply Alike.bind (expectDepth_alike depthInfo)
    intro depth
    exact thenNormal (printExplanation_alike result.why (some depth))
  | raise loc message => exact .because nofun
  | invokeNative loc method params => exact invokeNative_alike h method params loc why

omit [Telling tells] in
/-- Programs are alike if the ways to run their statements are. -/
lemma runProgram_alike (h : i.Alike tells calls j) (program : Program) :
    Alike tells calls (runProgram i program) (runProgram j program) := by
  induction program with
  | nil => exact .pure _
  | cons stmt rest ih =>
    apply Alike.bind (.text _)
    intro why
    apply Alike.bind (h.exec stmt why)
    intro flow
    cases flow with
    | normal => exact ih
    | returned result => exact .pure _

end Because
