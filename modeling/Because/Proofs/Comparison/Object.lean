import Because.Eval.Object
import Because.Proofs.Comparison.Call

/-!
# Comparing declarations and constructions

Built-in constructors and methods fail in ways of their own, so that their work is compared by
its own relation of faults. Work of the program inside a method, and the work of a method inside
the program, carry their comparison with them.
-/

namespace Because

/-- A fault that a method finds by itself. -/
def NativeFault.IsOwn : NativeFault → Prop
  | .failure _ => False
  | _ => True

namespace Comparison

variable {C : Comparison} [C.Lawful] {c : Census} {p : Expr → Prop} {q : Stmt → Prop}
  {i j : Inner} {why : ReasonId} {α β : Type} {Q : Census → α → β → Prop}

/-! ## Work of built-in methods -/

omit [C.Lawful] in
/-- Work of the program inside that of a method. -/
lemma Sim.lift {a : Eval α} {b : Eval β} (h : C.Sim C.failures c Q a b) :
    C.Sim C.nativeFaults c Q (liftM a) (liftM b) := by
  refine Sim.mapError h ?_ ?_
  · rintro d failure _ - ⟨rfl, known, allowed⟩
    refine ⟨rfl, known, ?_⟩
    intro other same
    cases same
    exact allowed
  · intro failure escapes
    exact ⟨failure, rfl, escapes⟩

omit [C.Lawful] in
/-- A method that fails by a fault of its own. -/
lemma Sim.refuse {fault : NativeFault} (h : fault.IsOwn) :
    C.Sim C.nativeFaults c Q (Action.fail fault) (Action.fail fault) := by
  refine .fail ⟨?_, ?_, ?_⟩
  · cases fault with
    | failure cause => exact h.elim
    | _ => rfl
  · cases fault with
    | failure cause => exact h.elim
    | _ => trivial
  · rintro failure rfl
    exact h.elim

/-- The work of a method inside that of the program. -/
lemma Sim.toEval (className method : String) (hw : c.reason why) {a : Native α} {b : Native β}
    (h : C.Sim C.nativeFaults c Q a b) :
    C.Sim C.failures c Q (Native.toEval className method why a)
      (Native.toEval className method (C.rename why) b) := by
  refine Sim.mapError h ?_ ?_
  · rintro d fault _ le ⟨rfl, known, allowed⟩
    have reason := le.reason hw
    cases fault with
    | failure cause =>
      have permitted := allowed _ rfl
      obtain ⟨fault, own, trace⟩ := cause
      refine ⟨?_, ?_, permitted⟩
      · cases own <;> rfl
      · intro other mem
        cases own with
        | none => cases mem; exact reason
        | some cited => cases mem; exact known _ rfl
    | _ => exact failures_because trivial reason
  · rintro _ ⟨failure, rfl, escapes⟩
    exact escapes

section

omit [C.Lawful]

variable (method : String) {args : List Justified}

/-- Methods that take no argument match if what they do does. -/
lemma withNone_sim {a : Native α} {b : Native β} (h : C.Sim C.nativeFaults c Q a b) :
    C.Sim C.nativeFaults c Q (Native.withNone method args a)
      (Native.withNone method (args.map (Justified.rename C.rename)) b) := by
  unfold Native.withNone
  cases args with
  | nil => exact h
  | cons arg rest =>
    simp only [List.map_cons, List.length_cons, List.length_map]
    exact .refuse trivial

/-- Methods that take one argument match if what they do with it does. -/
lemma withOne_sim (ha : Justified.AllIn c args) {f : Justified → Native α}
    {g : Justified → Native β}
    (h : ∀ arg, arg.In c → C.Sim C.nativeFaults c Q (f arg) (g (arg.rename C.rename))) :
    C.Sim C.nativeFaults c Q (Native.withOne method args f)
      (Native.withOne method (args.map (Justified.rename C.rename)) g) := by
  unfold Native.withOne
  match args, ha with
  | [], _ => exact .refuse trivial
  | [arg], ha => exact h arg (ha arg (by simp))
  | _ :: _ :: rest, _ =>
    simp only [List.map_cons, List.length_cons, List.length_map]
    exact .refuse trivial

/-- Methods that take two arguments match if what they do with them does. -/
lemma withTwo_sim (ha : Justified.AllIn c args) {f : Justified → Justified → Native α}
    {g : Justified → Justified → Native β}
    (h : ∀ x y, x.In c → y.In c →
      C.Sim C.nativeFaults c Q (f x y) (g (x.rename C.rename) (y.rename C.rename))) :
    C.Sim C.nativeFaults c Q (Native.withTwo method args f)
      (Native.withTwo method (args.map (Justified.rename C.rename)) g) := by
  unfold Native.withTwo
  match args, ha with
  | [], _ | [_], _ => exact .refuse trivial
  | [x, y], ha => exact h x y (ha x (by simp)) (ha y (by simp))
  | _ :: _ :: _ :: rest, _ =>
    simp only [List.map_cons, List.length_cons, List.length_map]
    exact .refuse trivial

/-- Requiring a text of an argument matches itself. -/
lemma expectText_sim (info : Justified) :
    C.Sim C.nativeFaults c C.Reasoned (Native.expectText method info)
      (Native.expectText method (info.rename C.rename)) := by
  unfold Native.expectText
  apply Sim.bind (.ask (P := Maybe C.Reasoned) fun pair => pair.textOf? info.value)
  intro d found found' le rel
  cases rel with
  | none => exact .refuse trivial
  | some known => exact .pure known

/-- Requiring a truth value of an argument matches itself. -/
lemma expectTruth_sim (info : Justified) :
    C.Sim C.nativeFaults c C.Reasoned (Native.expectTruth method info)
      (Native.expectTruth method (info.rename C.rename)) := by
  unfold Native.expectTruth
  apply Sim.bind (.ask (P := Maybe C.Reasoned) fun pair => pair.truthOf? info.value)
  intro d found found' le rel
  cases rel with
  | none => exact .refuse trivial
  | some known => exact .pure known

/-- Requiring a number of an argument matches itself. -/
lemma expectNumber_sim (info : Justified) :
    C.Sim C.nativeFaults c C.Reasoned (Native.expectNumber method info)
      (Native.expectNumber method (info.rename C.rename)) := by
  unfold Native.expectNumber
  apply Sim.bind (.ask (P := Maybe C.Reasoned) fun pair => pair.numberOf? info.value)
  intro d found found' le rel
  cases rel with
  | none => exact .refuse trivial
  | some known => exact .pure known

/-- A built-in constructor matches itself. -/
lemma construct_sim (builtin : Builtin) (ha : Justified.AllIn c args) :
    C.Sim C.nativeFaults c C.Handles (Native.construct builtin args)
      (Native.construct builtin (args.map (Justified.rename C.rename))) := by
  unfold Native.construct
  cases builtin with
  | list => exact withNone_sim _ (.pure ⟨rfl, .nil⟩)
  | dict => exact withNone_sim _ (.pure ⟨rfl, Ledger.In.empty⟩)
  | string =>
    refine withOne_sim _ ha ?_
    rintro ⟨value, because⟩ known
    cases value with
    | str content => exact .pure ⟨rfl, known.why⟩
    | _ => exact .refuse trivial
  | bool =>
    refine withOne_sim _ ha ?_
    rintro ⟨value, because⟩ known
    cases value with
    | bool truth => exact .pure ⟨rfl, known.why⟩
    | _ => exact .refuse trivial
  | num =>
    refine withOne_sim _ ha ?_
    rintro ⟨value, because⟩ known
    cases value with
    | int | none => exact .pure ⟨rfl, known.why⟩
    | _ => exact .refuse trivial

end

/-! ## Declarations -/

/-- Recording a function matches itself. -/
lemma defineFunction_sim {decl : Function} {owner : Option ClassId}
    (ho : ∀ id ∈ owner, c.classId id) (hb : ∀ stmt ∈ decl.body, C.body stmt) :
    C.Sim C.failures c (SameIn Census.function) (defineFunction decl owner)
      (defineFunction decl owner) :=
  .define ho hb

/-- Declaring the methods of a class matches itself. -/
lemma declareMethods_sim {id : ClassId} {implScope : ScopeId} (hid : c.classId id)
    (hs : c.scope implScope) {methods : List Function}
    (hb : ∀ method ∈ methods, ∀ stmt ∈ method.body, C.body stmt) :
    C.Sim C.failures c Same (declareMethods id implScope methods)
      (declareMethods id implScope methods) := by
  induction methods generalizing c with
  | nil => exact .pure rfl
  | cons method rest ih =>
    obtain ⟨first, others⟩ := List.forall_mem_cons.1 hb
    unfold declareMethods
    apply Sim.bind_known (.text _)
    intro d why le own
    have hid := le.classId hid
    apply Sim.bind_known (defineFunction_sim (by simpa using hid) first)
    intro e function le1 hf
    have known : Justified.In e ⟨.functionRef function, why⟩ :=
      ⟨hf, le1.reason own.reason⟩
    apply Sim.bind_same (.declare _ (.inl (le1.scope (le.scope hs))) known)
    intro f _ le2
    have hid := le2.classId (le1.classId hid)
    apply Sim.bind_same (.setMethod _ hid (le2.function hf))
    intro g _ le3
    exact ih (le3.classId hid) (le3.scope (le2.scope (le1.scope (le.scope hs)))) others

/-- Looking up the class above matches itself. -/
lemma findParent_sim (decl : Class) (hw : c.reason why) :
    C.Sim C.failures c (SameIn fun d parent => ∀ id ∈ parent, d.classId id)
      (findParent decl why) (findParent decl (C.rename why)) := by
  unfold findParent
  cases decl.parent with
  | none => exact .pure ⟨rfl, nofun⟩
  | some name =>
    apply Sim.bind (.ask (P := Maybe (SameIn Census.classId)) fun pair => pair.lookupClass? name)
    intro d found found' le rel
    cases rel with
    | none => exact .because trivial (le.reason hw)
    | @some _ id known =>
      obtain ⟨rfl, known⟩ := known
      exact .pure ⟨rfl, by simpa using known⟩

omit [C.Lawful] in
/-- The definition of the class above, if there is one, is the same in both sessions. -/
lemma Pair.parentDef {s t : Session} (h : C.Pair c s t) (parent : Option ClassId) :
    SameIn (fun d def? => ∀ classDef ∈ def?, ClassDef.In d classDef) c (parent.map s.classAt)
      (parent.map t.classAt) := by
  cases parent with
  | none => exact ⟨rfl, nofun⟩
  | some id =>
    refine ⟨by simp only [Option.map_some, (h.classAt id).1], ?_⟩
    intro classDef mem
    cases mem
    exact (h.classAt id).2

/-- Declaring a class matches itself. -/
lemma declareClass_sim {decl : Class}
    (hb : ∀ method ∈ decl.methods, ∀ stmt ∈ method.body, C.body stmt) (hw : c.reason why)
    (global : c.scope Session.globalScope) :
    C.Sim C.failures c Same (declareClass decl why) (declareClass decl (C.rename why)) := by
  unfold declareClass
  apply Sim.bind_known (findParent_sim decl hw)
  intro d parent le hp
  apply Sim.bind_known (.ask (P := SameIn fun d def? => ∀ classDef ∈ def?, ClassDef.In d classDef)
    fun pair => pair.parentDef parent)
  intro e parentDef le1 hd
  have above : e.scope ((parentDef.map ClassDef.implScope).getD Session.globalScope) := by
    cases parentDef with
    | none => exact le1.scope (le.scope global)
    | some classDef => exact (hd classDef rfl).implScope
  apply Sim.bind_known (.newScope _ above)
  intro f implScope le2 hs
  refine .bind (.defineClass fun {g} later => ?_) ?_
  · refine ⟨fun id mem => later.classId (le2.classId (le1.classId (hp id mem))),
      later.scope hs, ?_, ?_⟩
    · intro method mem
      cases parentDef with
      | none => cases mem
      | some classDef =>
        exact later.function (le2.function ((hd classDef rfl).methods method mem))
    · intro base mem
      cases parentDef with
      | none => cases mem
      | some classDef =>
        exact later.classId (le2.classId ((hd classDef rfl).nativeBase base mem))
  · rintro g _ id le3 ⟨rfl, hid⟩
    have later := le.trans (le1.trans (le2.trans le3))
    have known : Justified.In g ⟨.classRef id, why⟩ := ⟨hid, later.reason hw⟩
    apply Sim.bind_same (.declare _ (.inl (later.scope global)) known)
    intro g' _ le4
    exact declareMethods_sim (le4.classId hid) (le4.scope (le3.scope hs)) hb

/-! ## Objects -/

/-- Declaring the fields of an object matches itself. -/
lemma declareFields_sim {object : ScopeId} (ho : c.object object) (fields : List String) :
    C.Sim C.failures c Same (declareFields object fields) (declareFields object fields) := by
  induction fields generalizing c with
  | nil => exact .pure rfl
  | cons field rest ih =>
    unfold declareFields
    apply Sim.bind_known (.text _)
    intro d default le own
    apply Sim.bind_same (.declare field (.inr (le.object ho)) (.none own.reason))
    intro e _ le1
    exact ih (le1.object (le.object ho))

/-- Recording the class of an object matches itself. -/
lemma tagClass_sim {object : ScopeId} {id : ClassId} (ho : c.object object)
    (hid : c.classId id) :
    C.Sim C.failures c Same (tagClass object id) (tagClass object id) := by
  unfold tagClass
  apply Sim.bind_known (.text _)
  intro d because le own
  have known : Justified.In d ⟨.classRef id, because⟩ := ⟨le.classId hid, own.reason⟩
  exact .declare _ (.inr (le.object ho)) known

/-- Running the constructor of a class matches itself. -/
lemma runConstructor_sim (h : C.Insides p q i j) {object : ScopeId} (ho : c.object object)
    (id : ClassId) {args : List Justified} (ha : Justified.AllIn c args) (nativeBacked : Bool)
    (hw : c.reason why) :
    C.Sim C.failures c Same (runConstructor i object id args nativeBacked why)
      (runConstructor j object id (args.map (Justified.rename C.rename)) nativeBacked
        (C.rename why)) := by
  unfold runConstructor
  apply Sim.bind_known (.ask (P := SameIn ClassDef.In) fun pair => pair.classAt id)
  intro d classDef le hc
  cases e : classDef.methods.get? initName with
  | none =>
    simp only [List.isEmpty_map, List.length_map]
    split
    · exact .pure rfl
    · exact .because trivial (le.reason hw)
  | some init =>
    apply Sim.bind_known (.text _)
    intro d' specified le1 own
    have later := le.trans le1
    have known : Justified.In d' ⟨.object object, specified⟩ :=
      ⟨later.object ho, own.reason⟩
    apply Sim.bind (h.call (le1.function (hc.methods _ (Assoc.mem_of_get? e)))
      (.cons known (Justified.AllIn.mono later ha)) (later.reason hw))
    intro f _ _ _ _
    exact .pure rfl

/-- Giving an object its built-in state matches itself. -/
lemma attachHandle_sim {object : ScopeId} (ho : c.object object) (className : String)
    (builtin : Option Builtin) {args : List Justified} (ha : Justified.AllIn c args)
    (hw : c.reason why) :
    C.Sim C.failures c Same (attachHandle object className builtin args why)
      (attachHandle object className builtin (args.map (Justified.rename C.rename))
        (C.rename why)) := by
  unfold attachHandle
  cases builtin with
  | none => exact .pure rfl
  | some builtin =>
    apply Sim.bind (.toEval _ _ hw (construct_sim builtin ha))
    intro d handle other le held
    exact .setHandle (le.object ho) held

/-- Constructing an object of a class that a program declares matches itself. -/
lemma constructUser_sim (h : C.Insides p q i j) {object : ScopeId} (ho : c.object object)
    {id : ClassId} (hid : c.classId id) {args : List Justified} (ha : Justified.AllIn c args)
    (nativeBacked : Bool) (hw : c.reason why) :
    C.Sim C.failures c Same (constructUser i object id args nativeBacked why)
      (constructUser j object id (args.map (Justified.rename C.rename)) nativeBacked
        (C.rename why)) := by
  unfold constructUser
  apply Sim.bind_same (.ask (P := Same) fun pair => pair.allFields id)
  intro d fields le
  apply Sim.bind_same (declareFields_sim (le.object ho) fields)
  intro e _ le1
  have ho := le1.object (le.object ho)
  apply Sim.bind_same (tagClass_sim ho (le1.classId (le.classId hid)))
  intro f _ le2
  have later := le.trans (le1.trans le2)
  exact runConstructor_sim h (le2.object ho) id (Justified.AllIn.mono later ha) nativeBacked
    (later.reason hw)

/-- Describing the making of an object matches itself. -/
lemma describeNew_sim {object : ScopeId} (ho : c.object object) (className : String)
    {args : List Justified} (ha : Justified.AllIn c args) (hw : c.reason why) :
    C.Sim C.failures c C.Made (describeNew object className args why)
      (describeNew object className (args.map (Justified.rename C.rename)) (C.rename why)) := by
  unfold describeNew
  apply Sim.bind_same (.renderAll args)
  intro d given le
  apply Sim.bind_known (.conj _ (.cons (le.reason hw) (.of (Justified.AllIn.mono le ha))))
  intro d1 made le1 own
  have known : Justified.In d1 ⟨.object object, made⟩ :=
    ⟨le1.object (le.object ho), own.reason⟩
  exact .pure ⟨rfl, known, own⟩

/-- Making an object matches itself. -/
lemma newObject_sim (h : C.Insides p q i j) (className : String) {args : List Justified}
    (ha : Justified.AllIn c args) (hw : c.reason why) :
    C.Sim C.failures c C.Made (newObject i className args why)
      (newObject j className (args.map (Justified.rename C.rename)) (C.rename why)) := by
  unfold newObject
  apply Sim.bind (.ask (P := Maybe (SameIn Census.classId)) fun pair =>
    pair.lookupClass? className)
  intro d found found' le rel
  cases rel with
  | none => exact .because trivial (le.reason hw)
  | @some _ id known =>
    obtain ⟨rfl, hid⟩ := known
    apply Sim.bind_same .newObjectNumber
    intro d1 number le1
    apply Sim.bind_known .currentScope
    intro d2 current le2 hs
    apply Sim.bind_known (.newScope _ hs)
    intro d3 object le3 ho
    have hid := le3.classId (le2.classId (le1.classId hid))
    -- From here on the scope is an object.
    apply Sim.bind (.setTag number ho hid)
    intro d4 _ _ le4 ho
    have tagged := le.trans (le1.trans (le2.trans (le3.trans le4)))
    apply Sim.bind_same (.ask (P := Same) fun pair => pair.nativeBuiltin? id)
    intro d5 builtin le5
    have ho := le5.object ho
    have later := tagged.trans le5
    apply Sim.bind_same (attachHandle_sim ho className builtin (Justified.AllIn.mono later ha)
      (later.reason hw))
    intro d6 _ le6
    apply Sim.bind_known (.ask (P := SameIn ClassDef.In) fun pair => pair.classAt id)
    intro d7 classDef le7 hc
    have ho := le7.object (le6.object ho)
    have hid := le7.classId (le6.classId (le5.classId (le4.classId hid)))
    have later := later.trans (le6.trans le7)
    have ha := Justified.AllIn.mono later ha
    have hw := later.reason hw
    -- Both ways to prepare the object end in its description.
    have described {e : Census} (later : d7.Le e) : C.Sim C.failures e C.Made
        (describeNew object className args why)
        (describeNew object className (args.map (Justified.rename C.rename)) (C.rename why)) :=
      describeNew_sim (later.object ho) className (Justified.AllIn.mono later ha) (later.reason hw)
    dsimp only
    split
    · apply Sim.bind_same (tagClass_sim ho hid)
      intro e _ later
      exact described later
    · apply Sim.bind_same (constructUser_sim h ho hid ha builtin.isSome hw)
      intro e _ later
      exact described later

/-- Making an object whose reason is hidden matches itself. -/
lemma newHiddenObject_sim (h : C.Insides p q i j) (className : String) {args : List Justified}
    (ha : Justified.AllIn c args) (hw : c.reason why) :
    C.Sim C.failures c C.Made (newHiddenObject i className args why)
      (newHiddenObject j className (args.map (Justified.rename C.rename)) (C.rename why)) := by
  unfold newHiddenObject
  apply Sim.bind_known (newObject_sim h className ha hw)
  intro d result le made
  obtain ⟨known, own⟩ := made
  -- The reason may be hidden, as the run has just recorded it.
  apply Sim.bind_same (.hide own)
  intro e _ le1
  exact .pure ⟨rfl, known.mono le1, own.mono le1⟩

end Comparison

end Because
