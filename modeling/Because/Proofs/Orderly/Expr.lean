import Because.Eval.Expr
import Because.Proofs.Orderly.Native

/-!
# Expressions in orderly sessions

Every rule for one expression, given that what lies inside runs as it should. A method is called on
an object of a class that has the method in its table; only a call of `super` takes the method from
another table than that of the class of the object, so that it needs a regime in which this is fine.
-/

namespace Because

open Session

/-- Whether an expression is a call of `super`. -/
def Expr.CallsSuper : Expr → Prop
  | .superCall _ _ _ => True
  | _ => False

namespace Regime

variable {R : Regime} {inner : Inner} {s : Session} {v : List ScopeId} {why : ReasonId}

/-! ## Conditions -/

/-- Requiring a truth value of a condition changes nothing. -/
lemma expectCondition_leads (good : R.Good s) (result : Justified) (condition : Expr) :
    R.Leads v Failure.Calm (fun _ now => s = now) s (expectCondition result condition s) := by
  refine .ask ?_
  cases s.truthOf? result.value with
  | some found => exact .pure good rfl
  | none => exact .ask (.because good nofun)

/-- A truth value that follows from another value fits. -/
lemma derivedTruth_leads (h : inner.Regular R) (good : R.Good s) (expr : Expr) (truth : Bool)
    (operand : Justified) :
    R.Leads [] Failure.Calm Fitting s (derivedTruth inner expr truth operand why s) := by
  refine .bind good (newHiddenObject_leads h good "Bool" (.one trivial))
    fun result s1 good _ fits => ?_
  refine .ask (.bind good (.full good ..) fun derived s2 good later _ => ?_)
  exact .pure good (fits.grows later.grows)

/-- The refusal to compare objects changes nothing that matters. -/
lemma refuseObject_leads (good : R.Good s) (operand : Expr) (info : Justified) :
    R.Leads v Failure.Calm Any s (refuseObject operand info s) := by
  unfold refuseObject
  split
  · exact .ask (.because good nofun)
  · exact .pure good trivial

/-- A comparison for equality gives a fitting value. -/
lemma evalEq_leads (h : inner.Regular R) (good : R.Good s) (expr left right : Expr) :
    R.Leads [] Failure.Calm Fitting s (evalEq inner expr left right why s) := by
  refine .bind good (h.eval left why good) fun first s1 good _ _ => ?_
  refine .bind good (h.eval right why good) fun second s2 good _ _ => ?_
  refine .bind good (refuseObject_leads good left first) fun _ s3 good _ _ => ?_
  refine .bind good (refuseObject_leads good right second) fun _ s4 good _ _ => ?_
  refine .ask (.bind good (.full good ..) fun firstWhy s5 good _ _ => ?_)
  refine .ask (.bind good (.full good ..) fun secondWhy s6 good _ _ => ?_)
  refine .bind good (.conj good ..) fun compared s7 good _ _ => ?_
  exact newHiddenObject_leads h good "Bool" (.one trivial)

/-! ## Questions and numerals -/

/-- An answer that has been read becomes a fitting value. -/
lemma answerOf_leads (h : inner.Regular R) (good : R.Good s) (prompt : String)
    (line : Option String) :
    R.Leads [] Failure.Calm Fitting s (answerOf inner prompt why line s) := by
  cases line with
  | none => exact .because good nofun
  | some entered =>
    refine .bind good (.text good _) fun answered s1 good _ _ => ?_
    refine .bind good (.unknown good) fun unknown s2 good _ _ => ?_
    exact newObject_leads h good "String" (.one trivial)

/-- Asking for a line of input gives a fitting value. -/
lemma askFor_leads (h : inner.Regular R) (good : R.Good s) (prompt : String) :
    R.Leads [] Failure.Calm Fitting s (askFor inner prompt why s) := by
  have answer {s : Session} (good : R.Good s) : R.Leads [] Failure.Calm Fitting s
      ((do let line ← Action.readLine; answerOf inner prompt why line : Eval Justified) s) :=
    .bind good (.readLine good) fun line s1 good _ _ => answerOf_leads h good prompt line
  unfold askFor
  split
  · exact .bind good (.print good _) fun _ s1 good _ _ => answer good
  · exact answer good

/-- The conversion to a number gives a fitting value. -/
lemma evalInt_leads (h : inner.Regular R) (good : R.Good s) (expr : Expr) :
    R.Leads [] Failure.Calm Fitting s (evalInt inner expr why s) := by
  refine .bind good (h.eval expr why good) fun input s1 good _ _ => .ask ?_
  refine .bind good (.unknown good) fun unknown s2 good _ _ => ?_
  exact newObject_leads h good "Num" (.one (payload_fits _))

/-! ## Ranges -/

/-- Requiring a number as the bound of a range changes nothing that matters. -/
lemma expectBound_leads (good : R.Good s) (info : Justified) :
    R.Leads v Failure.Calm Any s (expectBound info s) := by
  refine .ask ?_
  obtain _ | ⟨_ | number, _⟩ := s.numberOf? info.value
  · exact .ask (.because good nofun)
  · exact .ask (.because good nofun)
  · exact .pure good trivial

/-- Filling a list with consecutive numbers runs as it should. -/
lemma fillRange_leads (h : inner.Regular R) (good : R.Good s) (list : Value) (count : Nat)
    (number : Int) :
    R.Leads [] Failure.Calm Any s (fillRange inner list why count number s) := by
  induction count generalizing s number with
  | zero => exact .pure good trivial
  | succ count ih =>
    refine .bind good (.unknown good) fun unknown s1 good _ _ => ?_
    refine .bind good (newHiddenObject_leads h good "Num" (.one trivial))
      fun item s2 good _ fits => ?_
    refine .bind good (.toEval _ _ (appendTo_leads good fits)) fun _ s3 good _ _ => ?_
    exact ih good _

/-- A range is a fitting value. -/
lemma evalRange_leads (h : inner.Regular R) (good : R.Good s) (expr low high : Expr) :
    R.Leads [] Failure.Calm Fitting s (evalRange inner expr low high why s) := by
  refine .bind good (h.eval low why good) fun lowInfo s1 good _ _ => ?_
  refine .bind good (h.eval high why good) fun highInfo s2 good _ _ => ?_
  refine .bind good (expectBound_leads good lowInfo) fun start s3 good _ _ => ?_
  refine .bind good (expectBound_leads good highInfo) fun stop s4 good _ _ => ?_
  refine .bind good (newHiddenObject_leads h good "List" .nil) fun list s5 good _ fits => ?_
  refine .bind good (fillRange_leads h good _ _ _) fun _ s6 good later _ => ?_
  have fits := fits.grows later.grows
  refine .bind good (.conj good ..) fun spanned s7 good later _ => ?_
  exact .pure good (fits.grows later.grows)

/-! ## Sums -/

/-- Requiring operands that can be added changes nothing. -/
lemma expectOperands_leads (good : R.Good s) (expr : Expr) (infos : List Justified) :
    R.Leads v Failure.Calm (fun _ now => s = now) s (expectOperands expr infos s) := by
  induction infos with
  | nil => exact .pure good rfl
  | cons info rest ih =>
    unfold expectOperands
    split
    · exact ih
    · exact .ask (.because good nofun)

/-- Adding one operand after the other gives a fitting value. -/
lemma joinOperands_leads (h : inner.Regular R) (good : R.Good s) {sum : Justified}
    (fits : sum.value.Fits s) {others : List Justified} (fit : Justified.AllFit s others) :
    R.Leads [] Failure.Calm Fitting s (joinOperands inner why sum others s) := by
  induction others generalizing s sum with
  | nil => exact .pure good fits
  | cons other rest ih =>
    obtain ⟨first, others⟩ := List.forall_mem_cons.1 fit
    refine .bind good (callMethod_leads h good fits "plus" (.one first))
      fun next s1 good later fits => ?_
    split
    · exact ih good fits (Justified.AllFit.grows others later.grows)
    · exact .ask (.because good nofun)

/-- A sum is a fitting value. -/
lemma evalPlus_leads (h : inner.Regular R) (good : R.Good s) (expr : Expr)
    (operands : List Expr) :
    R.Leads [] Failure.Calm Fitting s (evalPlus inner expr operands why s) := by
  refine .bind good (evalArgs_leads h.toEvaluates good operands) fun infos s1 good _ fit => ?_
  refine .bind good (expectOperands_leads good expr infos) ?_
  rintro _ _ - - rfl
  cases infos with
  | nil => exact .because good nofun
  | cons first rest =>
    obtain ⟨fits, others⟩ := List.forall_mem_cons.1 fit
    refine .bind good (joinOperands_leads h good fits others) fun sum s2 good _ fits => ?_
    refine .ask (.bind good (.full good ..) fun total s3 good later _ => ?_)
    exact .pure good (fits.grows later.grows)

/-! ## Properties -/

/-- Reading a property gives a fitting value. -/
lemma evalProperty_leads (h : inner.Regular R) (good : R.Good s) (owner : Expr)
    (property : String) (loc : Location) :
    R.Leads [] Failure.Calm Fitting s (evalProperty inner owner property loc why s) := by
  refine .bind good (h.eval owner why good) fun info s1 good _ fits => .ask ?_
  obtain ⟨value, because⟩ := info
  cases value with
  | object object =>
    refine .ask ?_
    cases found : s1.scopes.get object property with
    | ok stored =>
      obtain ⟨id, lt, kind⟩ := fits
      have fits := good.orderly.get (good.orderly.noImpl_of_kind kind) found
      refine .ask (.bind good (.full good ..) fun read s2 good later _ => ?_)
      exact .pure good (fits.grows later.grows)
    | error fault =>
      refine .because good ?_
      -- Properties that are not there are no matter of arguments.
      rintro name got rfl
      unfold Scopes.get at found
      split at found <;> cases found
  | _ => exact .because good nofun

/-! ## Methods -/

/-- The class that serves a method of an object is the class of the object. -/
lemma dispatchObject_leads (good : R.Good s) (target : Justified) (method : String) :
    R.Leads v Failure.Calm (fun served _ => s.classOf? target.value = some served.1) s
      (dispatchObject target method s) := by
  refine .ask (.ask ?_)
  cases ofClass : s.classOf? target.value with
  | some id => exact .ask (.bind good (.text good _) fun because s1 good _ _ => .pure good rfl)
  | none => exact .because good nofun

/-- The class that serves a method on `super` is the parent of the class that the running method
belongs to. -/
lemma dispatchSuper_leads (good : R.Good s) (method : String) :
    R.Leads v Failure.Calm
      (fun served _ => ∃ owner, s.calls.owner? = some owner ∧
        (s.classAt owner).parent = some served.1) s
      (dispatchSuper method why s) := by
  refine .ask ?_
  cases runs : s.calls.owner? with
  | none => exact .ask (.because good nofun)
  | some owner =>
    refine .ask ?_
    cases above : (s.classAt owner).parent with
    | none => exact .because good nofun
    | some parent =>
      exact .ask (.bind good (.text good _) fun because s1 good _ _ =>
        .pure good ⟨owner, rfl, above⟩)

/-- A method is called on its object and the arguments, if this is fine once they are there. -/
lemma callIn_leads (h : inner.Evaluates R) (good : R.Good s) {target : Justified}
    (fits : target.value.Fits s) {id : ClassId} (lt : Nat.lt id s.classes.size)
    (servedWhy : ReasonId) (expr : Expr) (method : String) (args : List Expr)
    (calls : ∀ {now : Session} {f : Nat} {infos : List Justified} (context : ReasonId),
      R.Good now → s.Later (places R.names []) now → Justified.AllFit now (target :: infos) →
      f < now.functions.size → (now.classAt id).methods.get? method = some f →
      R.Leads [] Failure.Calm Fitting now (inner.call f (target :: infos) context now)) :
    R.Leads [] Failure.Calm Fitting s
      (callIn inner expr target (id, servedWhy) method args why s) := by
  refine .ask (.bind good (.equal good ..) fun chosen s1 good1 later1 _ => ?_)
  refine .bind good1 (evalArgs_leads h good1 args) fun infos s2 good2 later2 fit => ?_
  refine .bind good2 (.conjAt good2 ..) fun context s3 good3 later3 _ => ?_
  have later : s.Later (places R.names []) s3 :=
    (later1.trans good.orderly later2).trans good.orderly later3
  have fit : Justified.AllFit s3 (target :: infos) :=
    .cons (fits.grows later.grows) (fit.grows later3.grows)
  refine .bind good3 (findMethod_leads good3 id method) ?_
  rintro f _ - - ⟨rfl, found⟩
  have made := (good3.orderly.method_owner (Nat.lt_of_lt_of_le lt later.grows.classes) found).1
  refine .bind good3 (calls context good3 later fit made found) fun result s4 good4 _ fits => ?_
  refine .ask (.bind good4 (.full good4 ..) fun called s5 good5 later5 _ => ?_)
  exact .pure good5 (fits.grows later5.grows)

/-- The method comes from the table of the class of the object. -/
lemma callOnObject_leads (h : inner.Regular R) (good : R.Good s) {target : Justified}
    (fits : target.value.Fits s) (expr : Expr) (method : String) (args : List Expr) :
    R.Leads [] Failure.Calm Fitting s (callOnObject inner expr target method args why s) := by
  refine .bind good (dispatchObject_leads good target method) ?_
  rintro ⟨id, servedWhy⟩ s1 good1 later ofClass
  have ofClass := later.grows.classOf ofClass
  have fits := fits.grows later.grows
  refine callIn_leads h.toEvaluates good1 fits (class_lt_of_fits fits ofClass) servedWhy expr
    method args fun context good2 later fit made found => ?_
  have ofClass := later.grows.classOf ofClass
  refine h.call context good2 made fit (R.receives good2.orderly good2.holds fit ?_)
  exact good2.orderly.receives (fits.grows later.grows) ofClass found _ _

/-- A call that a call of `super` in the session `s` makes later on: of the method that the parent
of the class of the running method has then, on what `self` has meant in `s`. -/
structure SuperCalls (R : Regime) (s now : Session) (method : String) (f : Nat)
    (receiver : Justified) (args : List Justified) : Prop where
  good : R.Good now
  later : s.Later (places R.names []) now
  fit : Justified.AllFit now (receiver :: args)
  made : f < now.functions.size
  self : ∃ stored, s.scopes.tryGet s.currentScope selfName = some stored ∧
    receiver.value = stored.value
  serves : ∃ owner parent : ClassId, s.calls.owner? = some owner ∧
    (s.classAt owner).parent = some parent ∧ (now.classAt parent).methods.get? method = some f

/-- A call on `super` gives a fitting value, if the calls that it may come to run as they should. -/
lemma evalSuper_leads (h : inner.Evaluates R) (good : R.Good s) (expr : Expr) (loc : Location)
    (method : String) (args : List Expr)
    (calls : ∀ {now : Session} {f : Nat} {receiver : Justified} {infos : List Justified}
      (context : ReasonId), R.SuperCalls s now method f receiver infos →
      R.Leads [] Failure.Calm Fitting now (inner.call f (receiver :: infos) context now)) :
    R.Leads [] Failure.Calm Fitting s
      ((do
        let target ← lookupVariable selfName loc why
        callOnSuper inner expr target method args why : Eval Justified) s) := by
  refine .bind good (lookupVariable_leads good selfName loc) ?_
  rintro target s1 good1 later1 ⟨fits, self⟩
  refine .bind good1 (dispatchSuper_leads good1 method) ?_
  rintro ⟨parent, servedWhy⟩ s2 good2 later2 ⟨owner, runs, above⟩
  have later := later1.trans good.orderly later2
  rw [later1.same.calls] at runs
  have lt := good.orderly.owner_lt runs
  rw [later1.grows.parentClass lt] at above
  have older := Nat.lt_trans (good.orderly.rooted.classes owner parent above) lt
  refine callIn_leads h good2 (fits.grows later2.grows)
    (Nat.lt_of_lt_of_le older later.grows.classes) servedWhy expr method args
    fun context good3 later3 fit made found => ?_
  exact calls context ⟨good3, later.trans good.orderly later3, fit, made, self,
    owner, parent, runs, above, found⟩

/-- Calls of `super` are ready. -/
def Supers (R : Regime) : Prop :=
  ∀ {s now : Session} {method : String} {f : Nat} {receiver : Justified}
    {infos : List Justified}, R.Good s → R.SuperCalls s now method f receiver infos →
    R.ready now f (receiver :: infos)

/-! ## All expressions -/

/-- The expression `new` gives a fitting value. -/
lemma evalNew_leads (h : inner.Regular R) (good : R.Good s) (className : String)
    (args : List Expr) :
    R.Leads [] Failure.Calm Fitting s (evalNew inner className args why s) := by
  refine .bind good (evalArgs_leads h.toEvaluates good args) fun infos s1 good _ fit => ?_
  refine .ask (.bind good (.conj good ..) fun context s2 good later _ => ?_)
  exact newObject_leads h good className (fit.grows later.grows)

/-- What is called by its name belongs to no class. -/
lemma evalCall_leads (h : inner.Regular R) (good : R.Good s) (name : String) (args : List Expr) :
    R.Leads [] Failure.Calm Fitting s (evalCall inner name args why s) := by
  refine .bind good (evalArgs_leads h.toEvaluates good args) fun infos s1 good _ fit => ?_
  refine .ask (.bind good (.conj good ..) fun context s2 good later _ => ?_)
  have fit := fit.grows later.grows
  refine .bind good (lookupFunction_leads good name) ?_
  rintro f _ - - ⟨rfl, made, unowned⟩
  exact h.call context good made fit
    (R.receives good.orderly good.holds fit (receives_of_unowned unowned infos))

/-- The number of a reason that is shown is a fitting value. -/
lemma evalWithId_leads (h : inner.Regular R) (good : R.Good s) (expr : Expr) :
    R.Leads [] Failure.Calm Fitting s (evalWithId inner expr why s) := by
  refine .bind good (h.eval expr why good) fun result s1 good _ _ => .ask ?_
  cases s1.graph.get result.why with
  | error cause => exact .fail good nofun
  | ok node => exact .ask (newHiddenObject_leads h good "String" (.one trivial))

/-- Every expression but a call of `super` runs as it should under every regime. -/
lemma evalExpr_leads (h : inner.Regular R) (good : R.Good s) (expr : Expr)
    (supers : expr.CallsSuper → R.Supers) :
    R.Leads [] Failure.Calm Fitting s (evalExpr inner expr why s) := by
  cases expr with
  | const loc literal =>
    refine .bind good (.text good _) fun written s1 good _ _ => ?_
    exact .pure good (Value.fits_ofLiteral _ literal)
  | get loc name =>
    exact (lookupVariable_leads good name loc).weaken fun _ _ ⟨fits, _⟩ => fits
  | property loc owner property => exact evalProperty_leads h good owner property loc
  | new loc className args => exact evalNew_leads h good className args
  | eq loc left right => exact evalEq_leads h good _ left right
  | not loc operand =>
    refine .bind good (h.eval operand why good) fun info s1 good _ _ => ?_
    refine .bind good (expectCondition_leads good info operand) ?_
    rintro truth _ - - rfl
    exact derivedTruth_leads h good _ _ info
  | isNone loc operand =>
    refine .bind good (h.eval operand why good) fun info s1 good _ _ => ?_
    exact derivedTruth_leads h good _ _ info
  | plus loc operands | concat loc operands => exact evalPlus_leads h good _ operands
  | call loc name args => exact evalCall_leads h good name args
  | methodCall loc object method args =>
    refine .bind good (h.eval object why good) fun target s1 good _ fits => ?_
    exact callOnObject_leads h good fits _ method args
  | selfCall loc method args =>
    refine .bind good (lookupVariable_leads good selfName loc) ?_
    exact fun target s1 good _ ⟨fits, _⟩ => callOnObject_leads h good fits _ method args
  | superCall loc method args =>
    refine evalSuper_leads h.toEvaluates good _ loc method args fun context made => ?_
    exact h.call context made.good made.made made.fit (supers trivial good made)
  | withId loc operand => exact evalWithId_leads h good operand
  | range loc low high => exact evalRange_leads h good _ low high
  | ask loc => exact askFor_leads h good ""
  | askWith loc prompt =>
    refine .bind good (h.eval prompt why good) fun info s1 good _ _ => .ask ?_
    exact askFor_leads h good _
  | int loc operand => exact evalInt_leads h good operand

end Regime

end Because
