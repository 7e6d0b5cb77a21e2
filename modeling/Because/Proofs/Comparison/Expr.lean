import Because.Eval.Expr
import Because.Proofs.Comparison.Collection

/-!
# Comparing expressions

Every rule for an expression matches itself, if what lies inside the expression does. Only the
rule that shows the number of a reason needs the comparison to allow it.
-/

namespace Because

/-- The expressions immediately inside an expression satisfy `p`, and the expression shows the
number of a reason only if the comparison allows it. -/
def Expr.Parts (C : Comparison) (p : Expr → Prop) : Expr → Prop
  | .const _ _ | .get _ _ | .ask _ => True
  | .property _ inner _ | .not _ inner | .isNone _ inner | .askWith _ inner | .int _ inner =>
    p inner
  | .new _ _ args | .plus _ args | .concat _ args | .call _ _ args | .selfCall _ _ args
  | .superCall _ _ args => ∀ arg ∈ args, p arg
  | .eq _ left right | .range _ left right => p left ∧ p right
  | .methodCall _ object _ args => p object ∧ ∀ arg ∈ args, p arg
  | .withId _ inner => C.shows ∧ p inner

namespace Comparison

variable {C : Comparison} [C.Lawful] {c : Census} {p : Expr → Prop} {q : Stmt → Prop}
  {i j : Inner} {why : ReasonId}

/-! ## Properties and methods -/

/-- Reading a property matches itself. -/
lemma evalProperty_sim (h : C.Insides p q i j) {owner : Expr} (ho : p owner) (property : String)
    (loc : Location) (hw : c.reason why) :
    C.Sim C.failures c C.Info (evalProperty i owner property loc why)
      (evalProperty j owner property loc (C.rename why)) := by
  unfold evalProperty
  apply Sim.bind_known (h.eval ho hw)
  intro d info le hi
  apply Sim.bind_same (.render info.value)
  intro d1 rendered le1
  obtain ⟨value, because⟩ := info
  cases value with
  | object object =>
    apply Sim.bind (.ask (P := Attempt C.Info) fun pair => pair.get object property)
    intro d2 stored other le2 answers
    have later := le.trans (le1.trans le2)
    cases answers with
    | error plain => exact .because plain (later.reason hw)
    | @ok stored _ known =>
      obtain ⟨rfl, hs⟩ := known
      apply Sim.bind_same (.render stored.value)
      intro d3 value le3
      have later := later.trans le3
      have hi := hi.mono (le1.trans (le2.trans le3))
      apply Sim.bind_known (.full _ _ loc (later.reason hw) (.cons hi.why
        (.one (le3.reason hs.why))))
      intro d4 read le4 own
      exact .pure ⟨rfl, hs.value.mono (le3.trans le4), own.reason⟩
  | _ => exact .because trivial (le1.reason hi.why)

/-- Finding the class that serves a method of an object matches itself. -/
lemma dispatchObject_sim {target : Justified} (ht : target.In c) (method : String) :
    C.Sim C.failures c C.Reasoned (dispatchObject target method)
      (dispatchObject (target.rename C.rename) method) := by
  unfold dispatchObject
  apply Sim.bind_same (.render target.value)
  intro d rendered le
  apply Sim.bind (.ask (P := Maybe (SameIn Census.classId)) fun pair =>
    pair.classOf? target.value)
  intro d1 found found' le1 rel
  cases rel with
  | none => exact .because trivial (le1.reason (le.reason ht.why))
  | @some _ id known =>
    obtain ⟨rfl, -⟩ := known
    apply Sim.bind_same (.ask (P := Same) fun pair => congrArg ClassDef.text (pair.classAt id).1)
    intro d2 classText le2
    apply Sim.bind_known (.text _)
    intro d3 because le3 own
    exact .pure ⟨rfl, own.reason⟩

/-- Finding the class that serves a method called on `super` matches itself. -/
lemma dispatchSuper_sim (method : String) (hw : c.reason why) :
    C.Sim C.failures c C.Reasoned (dispatchSuper method why)
      (dispatchSuper method (C.rename why)) := by
  unfold dispatchSuper
  apply Sim.bind (.ask (P := Maybe (SameIn Census.classId)) fun pair => pair.owner?)
  intro d found found' le rel
  cases rel with
  | none =>
    apply Sim.bind_same (.describeScope _)
    intro d1 place le1
    exact .because trivial (le1.reason (le.reason hw))
  | @some _ owner known =>
    obtain ⟨rfl, -⟩ := known
    apply Sim.bind_known (.ask (P := SameIn ClassDef.In) fun pair => pair.classAt owner)
    intro d1 ownerDef le1 _
    cases ownerDef.parent with
    | none => exact .because trivial (le1.reason (le.reason hw))
    | some parent =>
      apply Sim.bind_known (.ask (P := SameIn ClassDef.In) fun pair => pair.classAt parent)
      intro d2 parentDef le2 _
      apply Sim.bind_known (.text _)
      intro d3 reason le3 own
      exact .pure ⟨rfl, own.reason⟩

/-- A call of a method that a class serves matches itself. -/
lemma callIn_sim (h : C.Insides p q i j) (expr : Expr) {target : Justified}
    (ht : target.In c) {served served' : ClassId × ReasonId} (hs : C.Reasoned c served served')
    (method : String) {args : List Expr} (ha : ∀ arg ∈ args, p arg) (hw : c.reason why) :
    C.Sim C.failures c C.Info (callIn i expr target served method args why)
      (callIn j expr (target.rename C.rename) served' method args (C.rename why)) := by
  obtain ⟨id, servedWhy⟩ := served
  obtain ⟨rfl, hs⟩ := hs
  unfold callIn
  apply Sim.bind_same (.ask (P := Same) fun pair => congrArg ClassDef.name (pair.classAt id).1)
  intro d name le
  apply Sim.bind_known (.equal _ _ (le.reason hs))
  intro d1 chosen le1 hc
  have later := le.trans le1
  apply Sim.bind_known (evalArgs_sim h (later.reason hw) ha)
  intro d2 infos le2 hi
  have later := later.trans le2
  apply Sim.bind_known (.conjAt _ _ (.cons (later.reason hw) (.cons (later.reason ht.why)
    (.cons (le2.reason hc.reason) (.of hi)))))
  intro d3 context le3 own
  have hx := own.reason
  apply Sim.bind_known (findMethod_sim id method hx)
  intro d4 function le4 hf
  have ht := ht.mono (later.trans (le3.trans le4))
  apply Sim.bind_known (h.call hf (.cons ht (hi.mono (le3.trans le4))) (le4.reason hx))
  intro d5 result le5 hr
  apply Sim.bind_same (.render result.value)
  intro d6 rendered le6
  have later := later.trans (le3.trans (le4.trans (le5.trans le6)))
  apply Sim.bind_known (.full _ _ _ (later.reason hw) (.one (le6.reason hr.why)))
  intro d7 called le7 own
  exact .pure ⟨rfl, hr.value.mono (le6.trans le7), own.reason⟩

/-- A call of a method of an object matches itself. -/
lemma callOnObject_sim (h : C.Insides p q i j) (expr : Expr) {target : Justified}
    (ht : target.In c) (method : String) {args : List Expr} (ha : ∀ arg ∈ args, p arg)
    (hw : c.reason why) :
    C.Sim C.failures c C.Info (callOnObject i expr target method args why)
      (callOnObject j expr (target.rename C.rename) method args (C.rename why)) := by
  unfold callOnObject
  apply Sim.bind (dispatchObject_sim ht method)
  intro d served served' le hs
  exact callIn_sim h expr (ht.mono le) hs method ha (le.reason hw)

/-- A call on `super` matches itself. -/
lemma callOnSuper_sim (h : C.Insides p q i j) (expr : Expr) {target : Justified}
    (ht : target.In c) (method : String) {args : List Expr} (ha : ∀ arg ∈ args, p arg)
    (hw : c.reason why) :
    C.Sim C.failures c C.Info (callOnSuper i expr target method args why)
      (callOnSuper j expr (target.rename C.rename) method args (C.rename why)) := by
  unfold callOnSuper
  apply Sim.bind (dispatchSuper_sim method hw)
  intro d served served' le hs
  exact callIn_sim h expr (ht.mono le) hs method ha (le.reason hw)

/-! ## Conditions -/

/-- Requiring a condition to be a truth value matches itself. -/
lemma expectCondition_sim {result : Justified} (hr : result.In c) (condition : Expr) :
    C.Sim C.failures c Same (expectCondition result condition)
      (expectCondition (result.rename C.rename) condition) := by
  unfold expectCondition
  apply Sim.bind (.ask (P := Maybe C.Reasoned) fun pair => pair.truthOf? result.value)
  intro d found found' le rel
  cases rel with
  | none =>
    exact .refuseShown (le.reason hr.why) fun _ => trivial
  | @some truth _ known =>
    obtain ⟨rfl, -⟩ := known
    exact .pure rfl

/-- A truth value that follows from another value matches itself. -/
lemma derivedTruth_sim (h : C.Insides p q i j) (expr : Expr) (truth : Bool)
    {operand : Justified} (ho : operand.In c) (hw : c.reason why) :
    C.Sim C.failures c C.Info (derivedTruth i expr truth operand why)
      (derivedTruth j expr truth (operand.rename C.rename) (C.rename why)) := by
  unfold derivedTruth
  have known : Justified.In c ⟨.bool truth, operand.why⟩ := ⟨trivial, ho.why⟩
  apply Sim.bind_known (newHiddenObject_sim h "Bool" (.one known) hw).forget
  intro d result le hr
  apply Sim.bind_same (.render result.value)
  intro d1 rendered le1
  have later := le.trans le1
  apply Sim.bind_known (.full _ _ _ (later.reason hw) (.one (later.reason ho.why)))
  intro d2 derived le2 own
  exact .pure ⟨rfl, hr.value.mono (le1.trans le2), own.reason⟩

/-- The refusal to compare objects matches itself. -/
lemma refuseObject_sim (operand : Expr) {info : Justified} (hi : info.In c) :
    C.Sim C.failures c Same (refuseObject operand info)
      (refuseObject operand (info.rename C.rename)) := by
  unfold refuseObject
  cases e : info.value.isObject with
  | true =>
    simp only [Justified.rename, e, if_true]
    exact .refuseShown hi.why fun _ => trivial
  | false =>
    simp only [Justified.rename, e, Bool.false_eq_true, if_false]
    exact .pure rfl

/-- A comparison for equality matches itself. -/
lemma evalEq_sim (h : C.Insides p q i j) (expr : Expr) {left right : Expr} (hl : p left)
    (hr : p right) (hw : c.reason why) :
    C.Sim C.failures c C.Info (evalEq i expr left right why)
      (evalEq j expr left right (C.rename why)) := by
  unfold evalEq
  apply Sim.bind_known (h.eval hl hw)
  intro d first le hf
  apply Sim.bind_known (h.eval hr (le.reason hw))
  intro d1 second le1 hs
  apply Sim.bind_same (refuseObject_sim left (hf.mono le1))
  intro d2 _ le2
  apply Sim.bind_same (refuseObject_sim right (hs.mono le2))
  intro d3 _ le3
  apply Sim.bind_same (.render first.value)
  intro d4 firstText le4
  have later := le.trans (le1.trans (le2.trans (le3.trans le4)))
  have hf := hf.mono (le1.trans (le2.trans (le3.trans le4)))
  apply Sim.bind_known (.full _ _ _ (later.reason hw) (.one hf.why))
  intro d5 firstWhy le5 own
  apply Sim.bind_same (.render second.value)
  intro d6 secondText le6
  have later := later.trans (le5.trans le6)
  have hs := hs.mono (le2.trans (le3.trans (le4.trans (le5.trans le6))))
  apply Sim.bind_known (.full _ _ _ (later.reason hw) (.one hs.why))
  intro d7 secondWhy le7 own1
  have hfirst := le7.reason (le6.reason own.reason)
  apply Sim.bind_known (.conj _ (.cons hfirst (.one own1.reason)))
  intro d8 compared le8 own2
  have known : Justified.In d8 ⟨.bool (first.value == second.value), compared⟩ :=
    ⟨trivial, own2.reason⟩
  have made := newHiddenObject_sim h "Bool" (.one known) ((later.trans (le7.trans le8)).reason hw)
  exact made.forget

/-! ## Ranges and sums -/

/-- Requiring a number as the bound of a range matches itself. -/
lemma expectBound_sim {info : Justified} (hi : info.In c) :
    C.Sim C.failures c Same (expectBound info) (expectBound (info.rename C.rename)) := by
  unfold expectBound
  apply Sim.bind (.ask (P := Maybe C.Reasoned) fun pair => pair.numberOf? info.value)
  intro d found found' le rel
  have hwhy := le.reason hi.why
  cases rel with
  | none => exact .refuseShown hwhy fun _ => trivial
  | @some held _ known =>
    obtain ⟨number, _⟩ := held
    obtain ⟨rfl, -⟩ := known
    cases number with
    | none => exact .refuseShown hwhy fun _ => trivial
    | some number => exact .pure rfl

/-- Filling a list with consecutive numbers matches itself. -/
lemma fillRange_sim (h : C.Insides p q i j) {list : Value} (hl : list.In c)
    (hw : c.reason why) (count : Nat) (number : Int) :
    C.Sim C.failures c Same (fillRange i list why count number)
      (fillRange j list (C.rename why) count number) := by
  induction count generalizing c number with
  | zero => exact .pure rfl
  | succ count ih =>
    unfold fillRange
    apply Sim.bind_known .unknown
    intro d unknown le own
    have known : Justified.In d ⟨.int number, unknown⟩ := ⟨trivial, own.reason⟩
    apply Sim.bind_known (newHiddenObject_sim h "Num" (.one known) (le.reason hw)).forget
    intro d1 item le1 hi
    have later := le.trans le1
    apply Sim.bind_same (.toEval _ _ (later.reason hw)
      (appendTo_sim (hl.mono later) hi (later.reason hw)))
    intro d2 _ le2
    have later := later.trans le2
    exact ih (hl.mono later) (later.reason hw) (number + 1)

/-- Making a range matches itself. -/
lemma evalRange_sim (h : C.Insides p q i j) (expr : Expr) {low high : Expr} (hl : p low)
    (hh : p high) (hw : c.reason why) :
    C.Sim C.failures c C.Info (evalRange i expr low high why)
      (evalRange j expr low high (C.rename why)) := by
  unfold evalRange
  apply Sim.bind_known (h.eval hl hw)
  intro d lowInfo le hlow
  apply Sim.bind_known (h.eval hh (le.reason hw))
  intro d1 highInfo le1 hhigh
  apply Sim.bind_same (expectBound_sim (hlow.mono le1))
  intro d2 start le2
  apply Sim.bind_same (expectBound_sim (hhigh.mono le2))
  intro d3 stop le3
  have later := le.trans (le1.trans (le2.trans le3))
  apply Sim.bind_known (newHiddenObject_sim h "List" .nil (later.reason hw)).forget
  intro d4 list le4 hlist
  have later := later.trans le4
  apply Sim.bind_same (fillRange_sim h hlist.value (later.reason hw) _ _)
  intro d5 _ le5
  have hlow := hlow.mono (le1.trans (le2.trans (le3.trans (le4.trans le5))))
  have hhigh := hhigh.mono (le2.trans (le3.trans (le4.trans le5)))
  apply Sim.bind_known (.conj _ (.cons hlow.why (.one hhigh.why)))
  intro d6 spanned le6 own
  exact .pure ⟨rfl, hlist.value.mono (le5.trans le6), own.reason⟩

/-- Requiring operands that can be added matches itself. -/
lemma expectOperands_sim (expr : Expr) {infos : List Justified} (hi : Justified.AllIn c infos) :
    C.Sim C.failures c Same (expectOperands expr infos)
      (expectOperands expr (infos.map (Justified.rename C.rename))) := by
  induction infos with
  | nil => exact .pure rfl
  | cons info rest ih =>
    obtain ⟨first, others⟩ := List.forall_mem_cons.1 hi
    cases e : info.value.isObject with
    | true =>
      simp only [List.map_cons, expectOperands, Justified.rename, e, if_true]
      exact ih others
    | false =>
      simp only [List.map_cons, expectOperands, Justified.rename, e, Bool.false_eq_true, if_false]
      exact .refuseShown first.why fun _ => trivial

/-- Adding one operand after the other matches itself. -/
lemma joinOperands_sim (h : C.Insides p q i j) (hw : c.reason why) {sum : Justified}
    (hs : sum.In c) {others : List Justified} (ho : Justified.AllIn c others) :
    C.Sim C.failures c C.Info (joinOperands i why sum others)
      (joinOperands j (C.rename why) (sum.rename C.rename)
        (others.map (Justified.rename C.rename))) := by
  induction others generalizing c sum with
  | nil => exact .pure ⟨rfl, hs⟩
  | cons other rest ih =>
    obtain ⟨first, others⟩ := List.forall_mem_cons.1 ho
    unfold joinOperands
    apply Sim.bind_known (callMethod_sim h hs "plus" (.one first) hw)
    intro d next le hn
    cases e : next.value.isObject with
    | true =>
      simp only [Justified.rename, e, if_true]
      exact ih (le.reason hw) hn (Justified.AllIn.mono le others)
    | false =>
      simp only [Justified.rename, e, Bool.false_eq_true, if_false]
      exact .refuseShown hn.why fun _ => trivial

/-- A sum matches itself. -/
lemma evalPlus_sim (h : C.Insides p q i j) (expr : Expr) {operands : List Expr}
    (hp : ∀ operand ∈ operands, p operand) (hw : c.reason why) :
    C.Sim C.failures c C.Info (evalPlus i expr operands why)
      (evalPlus j expr operands (C.rename why)) := by
  unfold evalPlus
  apply Sim.bind_known (evalArgs_sim h hw hp)
  intro d infos le hi
  apply Sim.bind_same (expectOperands_sim expr hi)
  intro d1 _ le1
  have hi := hi.mono le1
  have later := le.trans le1
  cases infos with
  | nil => exact .because trivial (later.reason hw)
  | cons first rest =>
    obtain ⟨hf, hr⟩ := List.forall_mem_cons.1 hi
    apply Sim.bind_known (joinOperands_sim h (later.reason hw) hf hr)
    intro d2 sum le2 hs
    apply Sim.bind_same (.render sum.value)
    intro d3 rendered le3
    have later := later.trans (le2.trans le3)
    apply Sim.bind_known (.full _ _ _ (later.reason hw) (.of (hi.mono (le2.trans le3))))
    intro d4 total le4 own
    exact .pure ⟨rfl, hs.value.mono (le3.trans le4), own.reason⟩

/-! ## Questions and numerals -/

/-- An answer that has been read becomes a matching value. -/
lemma answerOf_sim (h : C.Insides p q i j) (prompt : String) (hw : c.reason why)
    (line : Option String) :
    C.Sim C.failures c C.Info (answerOf i prompt why line)
      (answerOf j prompt (C.rename why) line) := by
  cases line with
  | none => exact .because trivial hw
  | some entered =>
    unfold answerOf
    apply Sim.bind_known (.text _)
    intro d answered le ha
    apply Sim.bind_known .unknown
    intro d1 unknown le1 hu
    have known : Justified.In d1 ⟨.str entered, unknown⟩ := ⟨trivial, hu.reason⟩
    have made := newObject_sim h "String" (.one known) (le1.reason ha.reason)
    exact made.forget

/-- Asking for a line of input matches itself. -/
lemma askFor_sim (h : C.Insides p q i j) (prompt : String) (hw : c.reason why) :
    C.Sim C.failures c C.Info (askFor i prompt why) (askFor j prompt (C.rename why)) := by
  -- The line is read alike, with or without a prompt.
  have read {d : Census} (later : c.Le d) : C.Sim C.failures d C.Info
      (Action.readLine >>= answerOf i prompt why)
      (Action.readLine >>= answerOf j prompt (C.rename why)) := by
    apply Sim.bind_same .readLine
    intro d1 line le
    exact answerOf_sim h prompt (le.reason (later.reason hw)) line
  unfold askFor
  dsimp only
  split
  · apply Sim.bind_same (.print prompt)
    intro d _ later
    exact read later
  · exact read (.refl c)

/-- The conversion to a number matches itself. -/
lemma evalInt_sim (h : C.Insides p q i j) {expr : Expr} (he : p expr) (hw : c.reason why) :
    C.Sim C.failures c C.Info (evalInt i expr why) (evalInt j expr (C.rename why)) := by
  unfold evalInt
  apply Sim.bind_known (h.eval he hw)
  intro d input le _
  apply Sim.bind (.ask (P := Maybe C.Reasoned) fun pair => pair.textOf? input.value)
  intro d1 found found' le1 rel
  have same : (found'.bind fun content => parseNumber? content.1) =
      found.bind fun content => parseNumber? content.1 := by
    cases rel with
    | none => rfl
    | some known => rw [known.1]; rfl
  simp only [same]
  generalize (found.bind fun content => parseNumber? content.1) = number
  apply Sim.bind_known .unknown
  intro d2 unknown le2 hu
  have known : Justified.In d2 ⟨Native.payload number, unknown⟩ := by
    refine ⟨?_, hu.reason⟩
    cases number <;> trivial
  have made := newObject_sim h "Num" (.one known) ((le.trans (le1.trans le2)).reason hw)
  exact made.forget

/-! ## All expressions -/

/-- Making an object by `new` matches itself. -/
lemma evalNew_sim (h : C.Insides p q i j) (className : String) {args : List Expr}
    (ha : ∀ arg ∈ args, p arg) (hw : c.reason why) :
    C.Sim C.failures c C.Info (evalNew i className args why)
      (evalNew j className args (C.rename why)) := by
  unfold evalNew
  apply Sim.bind_known (evalArgs_sim h hw ha)
  intro d infos le hi
  apply Sim.bind_same (.renderAll infos)
  intro d1 given le1
  have hi := hi.mono le1
  apply Sim.bind_known (.conj _ (.cons (le1.reason (le.reason hw)) (.of hi)))
  intro d2 context le2 own
  exact (newObject_sim h className (hi.mono le2) own.reason).forget

/-- A call of a function matches itself. -/
lemma evalCall_sim (h : C.Insides p q i j) (name : String) {args : List Expr}
    (ha : ∀ arg ∈ args, p arg) (hw : c.reason why) :
    C.Sim C.failures c C.Info (evalCall i name args why)
      (evalCall j name args (C.rename why)) := by
  unfold evalCall
  apply Sim.bind_known (evalArgs_sim h hw ha)
  intro d infos le hi
  apply Sim.bind_same (.renderAll infos)
  intro d1 given le1
  apply Sim.bind_known (.conj _ (.one (le1.reason (le.reason hw))))
  intro d2 context le2 own
  have hx := own.reason
  apply Sim.bind_known (lookupFunction_sim name hx)
  intro d3 function le3 hf
  exact h.call hf (hi.mono (le1.trans (le2.trans le3))) (le3.reason hx)

/-- The number of a reason may be shown if the comparison allows it. -/
lemma evalWithId_sim (h : C.Insides p q i j) (shows : C.shows) {expr : Expr} (he : p expr)
    (hw : c.reason why) :
    C.Sim C.failures c C.Info (evalWithId i expr why) (evalWithId j expr (C.rename why)) := by
  unfold evalWithId
  apply Sim.bind_known (h.eval he hw)
  intro d result le hr
  apply Sim.bind (.ask (P := fun _ => C.GraphAnswers fun n m => n.mark = m.mark) fun pair =>
    Lawful.node pair shows hr.why)
  intro d1 node node' le1 answers
  cases answers with
  | error allowed => exact .fail ⟨rfl, nofun, allowed⟩
  | @ok node _ same =>
    apply Sim.bind_same (.render result.value)
    intro d2 rendered le2
    have later := le1.trans le2
    have known : Justified.In d2 ⟨.str (node.mark ++ rendered), result.why⟩ :=
      ⟨trivial, later.reason hr.why⟩
    have made := newHiddenObject_sim h "String" (.one known) ((le.trans later).reason hw)
    exact same ▸ made.forget

/-- One step of the evaluation of an expression matches itself. -/
lemma evalExpr_sim (h : C.Insides p q i j) {expr : Expr} (parts : expr.Parts C p)
    (hw : c.reason why) :
    C.Sim C.failures c C.Info (evalExpr i expr why) (evalExpr j expr (C.rename why)) := by
  cases expr with
  | const loc literal =>
    apply Sim.bind_known (.text _)
    intro d written _ own
    exact .pure ⟨rfl, Value.In.ofLiteral literal, own.reason⟩
  | get loc name => exact lookupVariable_sim name loc hw
  | property loc owner name => exact evalProperty_sim h parts name loc hw
  | new loc className args => exact evalNew_sim h className parts hw
  | eq loc left right => exact evalEq_sim h _ parts.1 parts.2 hw
  | not loc inner =>
    apply Sim.bind_known (h.eval parts hw)
    intro d info le hi
    apply Sim.bind_same (expectCondition_sim hi inner)
    intro d1 truth le1
    exact derivedTruth_sim h _ (!truth) (hi.mono le1) (le1.reason (le.reason hw))
  | isNone loc inner =>
    apply Sim.bind_known (h.eval parts hw)
    intro d info le hi
    exact derivedTruth_sim h _ info.value.isNone hi (le.reason hw)
  | plus loc operands => exact evalPlus_sim h _ parts hw
  | concat loc operands => exact evalPlus_sim h _ parts hw
  | call loc name args => exact evalCall_sim h name parts hw
  | methodCall loc object method args =>
    apply Sim.bind_known (h.eval parts.1 hw)
    intro d target le ht
    exact callOnObject_sim h _ ht method parts.2 (le.reason hw)
  | selfCall loc method args =>
    apply Sim.bind_known (lookupVariable_sim selfName loc hw)
    intro d target le ht
    exact callOnObject_sim h _ ht method parts (le.reason hw)
  | superCall loc method args =>
    apply Sim.bind_known (lookupVariable_sim selfName loc hw)
    intro d target le ht
    exact callOnSuper_sim h _ ht method parts (le.reason hw)
  | withId loc inner => exact evalWithId_sim h parts.1 parts.2 hw
  | range loc low high => exact evalRange_sim h _ parts.1 parts.2 hw
  | ask loc => exact askFor_sim h "" hw
  | askWith loc prompt =>
    apply Sim.bind_known (h.eval parts hw)
    intro d info le _
    apply Sim.bind_same (.ask (P := Same) fun pair => pair.shownText info.value)
    intro d1 shown le1
    exact askFor_sim h shown (le1.reason (le.reason hw))
  | int loc inner => exact evalInt_sim h parts hw

end Comparison

end Because
