import Because.Eval.Stmt
import Because.Proofs.Comparison.Expr
import Because.Proofs.Comparison.Native

/-!
# Comparing statements

Every rule for a statement matches itself, if what lies inside the statement does. A loop with a
condition may run out of passes, and explanations show the numbers of reasons, so that these need
the comparison to allow it.
-/

namespace Because

/-- The expressions and statements immediately inside a statement satisfy `p` and `q`, what it
declares has bodies that the comparison allows, and so does whatever else it may do. -/
def Stmt.Parts (C : Comparison) (p : Expr → Prop) (q : Stmt → Prop) : Stmt → Prop
  | .ifElse _ condition thenBranch elseBranch =>
    p condition ∧ (∀ stmt ∈ thenBranch, q stmt) ∧ ∀ stmt ∈ elseBranch, q stmt
  | .forEach _ _ values body => p values ∧ ∀ stmt ∈ body, q stmt
  | .whileDo _ condition body => C.tires ∧ p condition ∧ ∀ stmt ∈ body, q stmt
  | .declare _ _ value | .assign _ _ value | .ret _ value | .effect _ value | .print _ value =>
    p value
  | .declareFunction _ decl => ∀ stmt ∈ decl.body, C.body stmt
  | .declareClass _ decl => ∀ method ∈ decl.methods, ∀ stmt ∈ method.body, C.body stmt
  | .setProperty _ owner _ value => p owner ∧ p value
  | .fullExplain _ value => C.shows ∧ p value
  | .shortExplain _ value depth => C.shows ∧ p value ∧ p depth
  | .raise _ _ | .invokeNative _ _ _ => True

namespace Comparison

variable {C : Comparison} {c : Census} {p : Expr → Prop} {q : Stmt → Prop} {i j : Inner}
  {why : ReasonId}

/-- A failure that is given another reason. -/
lemma Sim.withReason {α β : Type} {Q : Census → α → β → Prop} {a : Eval α} {b : Eval β}
    (hw : c.reason why) (h : C.Sim C.failures c Q a b) :
    C.Sim C.failures c Q (a.mapError (·.withReason why))
      (b.mapError (·.withReason (C.rename why))) := by
  refine Sim.mapError h ?_ id
  rintro d failure _ le ⟨rfl, -, allowed⟩
  refine ⟨rfl, ?_, allowed⟩
  intro other mem
  cases mem
  exact le.reason hw

/-- A statement that ends normally once its work is done. -/
lemma Sim.thenNormal {a b : Eval Unit} (h : C.Sim C.failures c Same a b) :
    C.Sim C.failures c C.Flows (do a; return .normal) (do b; return .normal) := by
  apply Sim.bind h
  intro d _ _ _ _
  exact .pure ⟨rfl, trivial⟩

variable [C.Lawful]

/-! ## Variables and properties -/

/-- An assignment matches itself. -/
lemma execAssign_sim (h : C.Insides p q i j) (name : String) {value : Expr} (hv : p value)
    (loc : Location) (hw : c.reason why) :
    C.Sim C.failures c Same (execAssign i name value loc why)
      (execAssign j name value loc (C.rename why)) := by
  unfold execAssign
  apply Sim.bind_known (h.eval hv hw)
  intro d result le hr
  apply Sim.bind_same (.render result.value)
  intro d1 rendered le1
  have later := le.trans le1
  apply Sim.bind_known (.full _ _ loc (later.reason hw) (.one (le1.reason hr.why)))
  intro d2 assigned le2 own
  apply Sim.bind_known .currentScope
  intro d3 current le3 hs
  have later := later.trans (le2.trans le3)
  have known : Justified.In d3 ⟨result.value, assigned⟩ :=
    ⟨hr.value.mono (le1.trans (le2.trans le3)), le3.reason own.reason⟩
  exact .withReason (later.reason hw) (.assign name (.inl hs) known)

/-- A declaration of a variable matches itself. -/
lemma execDeclare_sim (h : C.Insides p q i j) (name : String) {value : Expr} (hv : p value)
    (loc : Location) (hw : c.reason why) :
    C.Sim C.failures c Same (execDeclare i name value loc why)
      (execDeclare j name value loc (C.rename why)) := by
  unfold execDeclare
  apply Sim.bind_known (.text _)
  intro d default le own
  apply Sim.bind_known .currentScope
  intro d1 current le1 hs
  have later := le.trans le1
  have known : Justified.In d1 (.none default) := .none (le1.reason own.reason)
  apply Sim.bind_same (.withReason (later.reason hw) (.declare name (.inl hs) known))
  intro d2 _ le2
  exact execAssign_sim h name hv loc ((later.trans le2).reason hw)

/-- Requiring an object as the owner of a property matches itself. -/
lemma expectOwner_sim {owner : Justified} (ho : owner.In c) (property : String) :
    C.Sim C.failures c (SameIn Census.object) (expectOwner owner property)
      (expectOwner (owner.rename C.rename) property) := by
  unfold expectOwner
  obtain ⟨value, because⟩ := owner
  cases value with
  | object object =>
    apply Sim.bind_same (.ask (P := Same) fun pair => pair.binds object property)
    intro d bound le
    cases bound with
    | true => exact .pure ⟨rfl, le.object ho.value⟩
    | false =>
      apply Sim.bind_same (.describeScope object)
      intro d1 place le1
      exact .because trivial (le1.reason (le.reason ho.why))
  | _ =>
    exact .refuseShown ho.why fun _ => trivial

/-- Setting a property matches itself. -/
lemma execSetProperty_sim (h : C.Insides p q i j) {owner value : Expr} (ho : p owner)
    (property : String) (hv : p value) (loc : Location) (hw : c.reason why) :
    C.Sim C.failures c Same (execSetProperty i owner property value loc why)
      (execSetProperty j owner property value loc (C.rename why)) := by
  unfold execSetProperty
  apply Sim.bind_known (h.eval ho hw)
  intro d ownerInfo le hi
  apply Sim.bind_known (expectOwner_sim hi property)
  intro d1 object le1 hobj
  have later := le.trans le1
  apply Sim.bind_known (h.eval hv (later.reason hw))
  intro d2 result le2 hr
  apply Sim.bind_same (.render ownerInfo.value)
  intro d3 shown le3
  apply Sim.bind_same (.render result.value)
  intro d4 rendered le4
  have later := later.trans (le2.trans (le3.trans le4))
  have hr := hr.mono (le3.trans le4)
  apply Sim.bind_known (.full _ _ loc (later.reason hw) (.one hr.why))
  intro d5 assigned le5 own
  have hobj := le5.object (le4.object (le3.object (le2.object hobj)))
  have known : Justified.In d5 ⟨result.value, assigned⟩ :=
    ⟨hr.value.mono le5, own.reason⟩
  exact .withReason ((later.trans le5).reason hw) (.assign property (.inr hobj) known)

/-! ## Printing and explaining -/

/-- Turning a value into the text to print matches itself. -/
lemma printableText_sim (h : C.Insides p q i j) {result : Justified} (hr : result.In c)
    (hw : c.reason why) :
    C.Sim C.failures c Same (printableText i result why)
      (printableText j (result.rename C.rename) (C.rename why)) := by
  unfold printableText
  apply Sim.bind (.ask (P := Maybe C.Reasoned) fun pair => pair.textOf? result.value)
  intro d text text' le rel
  cases rel with
  | @some content _ known =>
    obtain ⟨rfl, -⟩ := known
    exact .pure rfl
  | none =>
    apply Sim.bind (.ask (P := Maybe (SameIn Census.classId)) fun pair =>
      pair.classOf? result.value)
    intro d1 found found' le1 rel
    cases rel with
    | none => exact .render result.value
    | some _ =>
      have later := le.trans le1
      apply Sim.bind_known (callMethod_sim h (hr.mono later) "toString" .nil (later.reason hw))
      intro d2 converted _ _
      exact .ask fun pair => pair.shownText converted.value

/-- An explanation may be printed if the comparison allows it. -/
lemma printExplanation_sim (shows : C.shows) {id : ReasonId} (hi : c.reason id)
    (depth : Option Nat) :
    C.Sim C.failures c Same (printExplanation id depth)
      (printExplanation (C.rename id) depth) := by
  unfold printExplanation
  apply Sim.bind (.ask (P := fun _ => C.GraphAnswers Eq) fun pair =>
    Lawful.explain depth pair shows hi)
  intro d explained explained' le answers
  cases answers with
  | error allowed => exact .fail ⟨rfl, nofun, allowed⟩
  | ok same => exact same ▸ .printLine _

/-- Requiring a number as the depth of an explanation matches itself. -/
lemma expectDepth_sim {info : Justified} (hi : info.In c) :
    C.Sim C.failures c Same (expectDepth info) (expectDepth (info.rename C.rename)) := by
  unfold expectDepth
  dsimp only
  apply Sim.bind (.ask (P := Maybe C.Reasoned) fun pair => pair.numberOf? info.value)
  intro d found found' le rel
  have hwhy := le.reason hi.why
  cases rel with
  | none => exact .refuseShown hwhy fun _ => trivial
  | @some held _ known =>
    obtain ⟨number, _⟩ := held
    obtain ⟨rfl, -⟩ := known
    cases number with
    | none => exact .refuseShown hwhy fun _ => trivial
    | some number =>
      dsimp only
      split
      · exact .pure rfl
      · exact .refuseShown hwhy fun _ => trivial

/-- Printing a value matches itself. -/
lemma execPrint_sim (h : C.Insides p q i j) {value : Expr} (hv : p value) (hw : c.reason why) :
    C.Sim C.failures c Same (execPrint i value why) (execPrint j value (C.rename why)) := by
  unfold execPrint
  apply Sim.bind_known (h.eval hv hw)
  intro d result le hr
  apply Sim.bind_same (printableText_sim h hr (le.reason hw))
  intro d1 text _
  exact .printLine text

/-! ## Branches, returns and declarations -/

/-- Returning a value matches itself. -/
lemma execReturn_sim (h : C.Insides p q i j) {value : Expr} (hv : p value) (loc : Location)
    (hw : c.reason why) :
    C.Sim C.failures c C.Flows (execReturn i value loc why)
      (execReturn j value loc (C.rename why)) := by
  unfold execReturn
  apply Sim.bind_known (h.eval hv hw)
  intro d result le hr
  apply Sim.bind_same (.render result.value)
  intro d1 rendered le1
  apply Sim.bind_known (.full _ _ loc (le1.reason (le.reason hw)) (.one (le1.reason hr.why)))
  intro d2 returned le2 own
  exact .pure ⟨rfl, hr.value.mono (le1.trans le2), own.reason⟩

/-- An `if` matches itself. -/
lemma execIf_sim (h : C.Insides p q i j) {condition : Expr} (hc : p condition)
    {thenBranch elseBranch : List Stmt} (ht : ∀ stmt ∈ thenBranch, q stmt)
    (he : ∀ stmt ∈ elseBranch, q stmt) (hw : c.reason why) :
    C.Sim C.failures c C.Flows (execIf i condition thenBranch elseBranch why)
      (execIf j condition thenBranch elseBranch (C.rename why)) := by
  unfold execIf
  apply Sim.bind_known (h.eval hc hw)
  intro d result le hr
  apply Sim.bind_same (expectCondition_sim hr condition)
  intro d1 truth le1
  cases truth with
  | true => exact runStatements_sim h (le1.reason hr.why) ht
  | false => exact runStatements_sim h (le1.reason hr.why) he

/-- Declaring a function matches itself. -/
lemma execFunction_sim {decl : Function} (hb : ∀ stmt ∈ decl.body, C.body stmt)
    (hw : c.reason why) :
    C.Sim C.failures c Same (execFunction decl why) (execFunction decl (C.rename why)) := by
  unfold execFunction
  have noOwner : ∀ id ∈ (none : Option ClassId), c.classId id := nofun
  apply Sim.bind_known (defineFunction_sim noOwner hb)
  intro d function le hf
  apply Sim.bind_known .currentScope
  intro d1 current le1 hs
  have known : Justified.In d1 ⟨.functionRef function, why⟩ :=
    ⟨le1.function hf, le1.reason (le.reason hw)⟩
  exact .declare decl.name (.inl hs) known

/-! ## Loops -/

/-- The passes over a list of items match themselves. -/
lemma forItems_sim (h : C.Insides p q i j) {loopScope : ScopeId} (hs : c.scope loopScope)
    (name : String) (loc : Location) {body : List Stmt} (hb : ∀ stmt ∈ body, q stmt)
    {collectionWhy : ReasonId} (hc : c.reason collectionWhy) (hw : c.reason why)
    {items : List Justified} (hi : Justified.AllIn c items) :
    C.Sim C.failures c C.Flows (forItems i loopScope name loc body collectionWhy why items)
      (forItems j loopScope name loc body (C.rename collectionWhy) (C.rename why)
        (items.map (Justified.rename C.rename))) := by
  -- The items are those from before the loop, so that they stay in the census as it grows.
  induction items generalizing c with
  | nil => exact .pure ⟨rfl, trivial⟩
  | cons item rest ih =>
    obtain ⟨first, others⟩ := List.forall_mem_cons.1 hi
    unfold forItems
    apply Sim.bind_same (.render item.value)
    intro d rendered le
    apply Sim.bind_known (.full _ _ loc (le.reason hw) (.cons (le.reason hc)
      (.one (le.reason first.why))))
    intro d1 pass le1 own
    have later := le.trans le1
    have known : Justified.In d1 ⟨item.value, pass⟩ :=
      ⟨first.value.mono later, own.reason⟩
    apply Sim.bind_same (.assign name (.inl (later.scope hs)) known)
    intro d2 _ le2
    have later := later.trans le2
    apply Sim.bind_known (.newScope _ (later.scope hs))
    intro d3 scope le3 hscope
    have hpass := le3.reason (le2.reason own.reason)
    apply Sim.bind_known (.inScope hscope (runStatements_sim h hpass hb))
    intro d4 flow le4 hf
    have later := later.trans (le3.trans le4)
    cases flow with
    | normal =>
      exact ih (later.scope hs) (later.reason hc) (later.reason hw)
        (Justified.AllIn.mono later others)
    | returned result => exact .pure ⟨rfl, hf⟩

/-- Requiring a collection to loop over matches itself. -/
lemma expectItems_sim {collection : Justified} (hc : collection.In c) :
    C.Sim C.failures c C.Infos (expectItems collection)
      (expectItems (collection.rename C.rename)) := by
  unfold expectItems
  apply Sim.bind (.ask (P := Maybe C.Handles) fun pair => pair.handle? collection.value)
  intro d found found' le rel
  have hwhy := le.reason hc.why
  cases rel with
  | none => exact .refuseShown hwhy fun _ => trivial
  | @some handle _ known =>
    obtain ⟨rfl, hh⟩ := known
    simp only [Option.bind_some, Handle.items?_rename]
    cases e : handle.items? with
    | none => exact .refuseShown hwhy fun _ => trivial
    | some items => exact .pure ⟨rfl, hh.items e⟩

/-- A loop over a collection matches itself, once its scope has been entered. -/
lemma forCollection_sim (h : C.Insides p q i j) {loopScope : ScopeId} (hs : c.scope loopScope)
    (name : String) {values : Expr} (hv : p values) {body : List Stmt}
    (hb : ∀ stmt ∈ body, q stmt) (hw : c.reason why) :
    C.Sim C.failures c C.Flows (forCollection i loopScope name values body why)
      (forCollection j loopScope name values body (C.rename why)) := by
  unfold forCollection
  apply Sim.bind_known (h.eval hv hw)
  intro d collection le hc
  apply Sim.bind_known (.text _)
  intro d1 initialized le1 own
  have later := le.trans le1
  apply Sim.bind_same (.declare name (.inl (later.scope hs)) (.none own.reason))
  intro d2 _ le2
  have hc := hc.mono (le1.trans le2)
  apply Sim.bind_known (expectItems_sim hc)
  intro d3 items le3 hi
  have later := later.trans (le2.trans le3)
  exact forItems_sim h (later.scope hs) name _ hb (le3.reason hc.why) (later.reason hw) hi

/-- A loop over a collection matches itself. -/
lemma execForEach_sim (h : C.Insides p q i j) (name : String) {values : Expr} (hv : p values)
    {body : List Stmt} (hb : ∀ stmt ∈ body, q stmt) (hw : c.reason why) :
    C.Sim C.failures c C.Flows (execForEach i name values body why)
      (execForEach j name values body (C.rename why)) := by
  unfold execForEach
  apply Sim.bind_known .currentScope
  intro d current le hs
  apply Sim.bind_known (.newScope _ hs)
  intro d1 loopScope le1 hs
  exact .inScope hs (forCollection_sim h hs name hv hb (le1.reason (le.reason hw)))

/-- A pass of a `while` loop matches itself. -/
lemma whilePass_sim (h : C.Insides p q i j) {condition : Expr} (hc : p condition)
    {body : List Stmt} (hb : ∀ stmt ∈ body, q stmt) (loc : Location) (hw : c.reason why) :
    C.Sim C.failures c (Maybe C.Flows) (whilePass i condition body loc why)
      (whilePass j condition body loc (C.rename why)) := by
  unfold whilePass
  apply Sim.bind_known (h.eval hc hw)
  intro d result le hr
  apply Sim.bind_same (expectCondition_sim hr condition)
  intro d1 truth le1
  cases truth with
  | false => exact .pure .none
  | true =>
    apply Sim.bind_same (.render result.value)
    intro d2 rendered le2
    have later := le.trans (le1.trans le2)
    have hr := hr.mono (le1.trans le2)
    apply Sim.bind_known (.full _ _ loc (later.reason hw) (.one hr.why))
    intro d3 pass le3 own
    apply Sim.bind (runStatements_sim h own.reason hb)
    intro d4 flow flow' le4 flows
    exact .pure (.some flows)

/-- A `while` loop matches itself, if runs may tire. -/
lemma execWhile_sim (h : C.Insides p q i j) (tires : C.tires) {condition : Expr}
    (hc : p condition) {body : List Stmt} (hb : ∀ stmt ∈ body, q stmt) (loc : Location)
    (hw : c.reason why) (passes : Nat) :
    C.Sim C.failures c C.Flows (execWhile i condition body loc why passes)
      (execWhile j condition body loc (C.rename why) passes) := by
  -- Both runs give up after the same number of passes.
  induction passes generalizing c with
  | zero => exact .giveUp tires
  | succ passes ih =>
    unfold execWhile
    apply Sim.bind_known .currentScope
    intro d current le hs
    apply Sim.bind_known (.newScope _ hs)
    intro d1 scope le1 hs
    have hw := le1.reason (le.reason hw)
    apply Sim.bind (.inScope hs (whilePass_sim h hc hb loc hw))
    intro d2 pass pass' le2 rel
    cases rel with
    | none => exact .pure ⟨rfl, trivial⟩
    | @some flow _ flows =>
      obtain ⟨rfl, hf⟩ := flows
      cases flow with
      | normal => exact ih (le2.reason hw)
      | returned result => exact .pure ⟨rfl, hf⟩

/-! ## All statements -/

/-- One step of the execution of a statement matches itself. -/
lemma execStmt_sim (h : C.Insides p q i j) {stmt : Stmt} (parts : stmt.Parts C p q)
    (hw : c.reason why) :
    C.Sim C.failures c C.Flows (execStmt i stmt why) (execStmt j stmt (C.rename why)) := by
  cases stmt with
  | ifElse loc condition thenBranch elseBranch =>
    exact execIf_sim h parts.1 parts.2.1 parts.2.2 hw
  | forEach loc name values body => exact execForEach_sim h name parts.1 parts.2 hw
  | whileDo loc condition body =>
    simp only [execStmt, h.passes parts.1]
    exact execWhile_sim h parts.1 parts.2.1 parts.2.2 loc hw i.passes
  | declare loc name value => exact .thenNormal (execDeclare_sim h name parts loc hw)
  | assign loc name value => exact .thenNormal (execAssign_sim h name parts loc hw)
  | ret loc value => exact execReturn_sim h parts loc hw
  | declareFunction loc decl => exact .thenNormal (execFunction_sim parts hw)
  | declareClass loc decl =>
    intro s t pair
    exact Sim.thenNormal (declareClass_sim parts hw pair.known.global) s t pair
  | effect loc value =>
    apply Sim.bind (h.eval parts hw)
    intro d _ _ _ _
    exact .pure ⟨rfl, trivial⟩
  | setProperty loc owner name value =>
    exact .thenNormal (execSetProperty_sim h parts.1 name parts.2 loc hw)
  | print loc value => exact .thenNormal (execPrint_sim h parts hw)
  | fullExplain loc value =>
    apply Sim.bind_known (h.eval parts.2 hw)
    intro d result le hr
    exact .thenNormal (printExplanation_sim parts.1 hr.why none)
  | shortExplain loc value depth =>
    apply Sim.bind_known (h.eval parts.2.1 hw)
    intro d result le hr
    apply Sim.bind_known (h.eval parts.2.2 (le.reason hw))
    intro d1 depthInfo le1 hd
    apply Sim.bind_same (expectDepth_sim hd)
    intro d2 depth le2
    have hr := le2.reason (le1.reason hr.why)
    exact .thenNormal (printExplanation_sim parts.1 hr (some depth))
  | raise loc message => exact .because trivial hw
  | invokeNative loc method params => exact invokeNative_sim h method params loc hw

end Comparison

end Because
