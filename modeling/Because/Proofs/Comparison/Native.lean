import Because.Native.Invoke
import Because.Proofs.Comparison.Collection

/-!
# Comparing built-in methods

The methods of numbers, texts and truth values match themselves, and with them the statement that
hands a running method over to the state of its object.
-/

namespace Because

namespace Comparison

variable {C : Comparison} [C.Lawful] {c : Census} {p : Expr → Prop} {q : Stmt → Prop}
  {i j : Inner} {why : ReasonId}

/-! ## Numbers -/

/-- The state of a number mentions no reason. -/
lemma payload_in (number : Option Int) : (Native.payload number).In c := by
  cases number <;> trivial

section Number

variable {number : Option Int} {numberWhy : ReasonId}

/-- Comparing a number with an argument matches itself. -/
lemma compareNumbers_sim (h : C.Insides p q i j) (hn : c.reason numberWhy) (hw : c.reason why)
    (other : Justified) :
    C.Sim C.nativeFaults c C.Info (Native.compareNumbers i number numberWhy why other)
      (Native.compareNumbers j number (C.rename numberWhy) (C.rename why)
        (other.rename C.rename)) := by
  unfold Native.compareNumbers
  apply Sim.bind_known (expectNumber_sim _ other)
  intro d result le ht
  obtain ⟨theirs, theirWhy⟩ := result
  apply Sim.bind_known (.lift (.conj _ (.cons (le.reason hn) (.one ht))))
  intro d1 result le1 own
  exact hidden_sim h "Bool" ⟨trivial, own.reason⟩ (le1.reason (le.reason hw))

omit [C.Lawful] in
/-- The sum of two numbers, or its overflow, matches itself. -/
lemma sum_sim (first second : Option Int) :
    C.Sim C.nativeFaults c Same (Action.ofExcept (Native.sum? first second))
      (Action.ofExcept (Native.sum? first second)) := by
  unfold Native.sum?
  cases first with
  | none => exact .pure rfl
  | some a =>
    cases second with
    | none => exact .pure rfl
    | some b =>
      dsimp only
      split
      · exact .pure rfl
      · have own : (NativeFault.overflow "plus").IsOwn := trivial
        exact .refuse own

/-- Adding an argument to a number matches itself. -/
lemma addNumbers_sim (h : C.Insides p q i j) (hn : c.reason numberWhy) (hw : c.reason why)
    (other : Justified) :
    C.Sim C.nativeFaults c C.Info (Native.addNumbers i number numberWhy why other)
      (Native.addNumbers j number (C.rename numberWhy) (C.rename why)
        (other.rename C.rename)) := by
  unfold Native.addNumbers
  apply Sim.bind_known (expectNumber_sim _ other)
  intro d result le ht
  obtain ⟨theirs, theirWhy⟩ := result
  apply Sim.bind_same (sum_sim number theirs)
  intro d1 sum le1
  have later := le.trans le1
  apply Sim.bind_known (.lift (.conj _ (.cons (later.reason hw) (.cons (later.reason hn)
    (.one (le1.reason ht))))))
  intro d2 sumWhy le2 own
  exact hidden_sim h "Num" ⟨payload_in sum, own.reason⟩ (le2.reason (later.reason hw))

/-- The methods of numbers match themselves. -/
lemma invokeNumber_sim (h : C.Insides p q i j) (hn : c.reason numberWhy) (method : String)
    {args : List Justified} (ha : Justified.AllIn c args) (hw : c.reason why) :
    C.Sim C.nativeFaults c C.Info (Native.invokeNumber i number numberWhy method why args)
      (Native.invokeNumber j number (C.rename numberWhy) method (C.rename why)
        (args.map (Justified.rename C.rename))) := by
  unfold Native.invokeNumber
  split
  · exact withNone_sim _ (hidden_sim h "String" ⟨trivial, hn⟩ hw)
  · exact withNone_sim _ (hidden_sim h "Bool" ⟨trivial, hn⟩ hw)
  · exact withOne_sim _ ha fun other _ => compareNumbers_sim h hn hw other
  · exact withOne_sim _ ha fun other _ => addNumbers_sim h hn hw other
  · exact .refuse trivial

end Number

/-! ## Texts -/

section Text

variable {content : String} {contentWhy : ReasonId}

/-- Appending the parts of a text matches itself. -/
lemma appendParts_sim (h : C.Insides p q i j) {list : Value} (hl : list.In c)
    (hw : c.reason why) (parts : List String) :
    C.Sim C.nativeFaults c Same (Native.appendParts i list why parts)
      (Native.appendParts j list (C.rename why) parts) := by
  induction parts generalizing c with
  | nil => exact .pure rfl
  | cons part rest ih =>
    unfold Native.appendParts
    have known : Justified.In c ⟨.str part, why⟩ := ⟨trivial, hw⟩
    apply Sim.bind_known (hidden_sim h "String" known hw)
    intro d item le hi
    apply Sim.bind_same (appendTo_sim (hl.mono le) hi (le.reason hw))
    intro d1 _ le1
    exact ih (Value.In.mono (le.trans le1) hl) (le1.reason (le.reason hw))

/-- Splitting a text matches itself. -/
lemma splitText_sim (h : C.Insides p q i j) (hc : c.reason contentWhy) (hw : c.reason why)
    (separator : Justified) :
    C.Sim C.nativeFaults c C.Info (Native.splitText i content contentWhy why separator)
      (Native.splitText j content (C.rename contentWhy) (C.rename why)
        (separator.rename C.rename)) := by
  unfold Native.splitText
  apply Sim.bind_known (expectText_sim _ separator)
  intro d result le ht
  obtain ⟨sep, sepWhy⟩ := result
  apply Sim.bind_known (.lift (newHiddenObject_sim h "List" .nil (le.reason hw)).forget)
  intro d1 list le1 hl
  have later := le.trans le1
  apply Sim.bind_known (.lift (.conj _ (.cons (later.reason hw) (.cons (later.reason hc)
    (.one (le1.reason ht))))))
  intro d2 split le2 own
  have hl := hl.value.mono le2
  apply Sim.bind_same (appendParts_sim h hl own.reason _)
  intro d3 _ le3
  exact .pure ⟨rfl, hl.mono le3, le3.reason own.reason⟩

/-- Joining two texts matches itself. -/
lemma joinTexts_sim (h : C.Insides p q i j) (hc : c.reason contentWhy) (hw : c.reason why)
    (other : Justified) :
    C.Sim C.nativeFaults c C.Info (Native.joinTexts i content contentWhy why other)
      (Native.joinTexts j content (C.rename contentWhy) (C.rename why)
        (other.rename C.rename)) := by
  unfold Native.joinTexts
  apply Sim.bind_known (expectText_sim _ other)
  intro d result le ht
  obtain ⟨theirs, theirWhy⟩ := result
  apply Sim.bind_known (.lift (.conj _ (.cons (le.reason hw) (.cons (le.reason hc) (.one ht)))))
  intro d1 sum le1 own
  exact hidden_sim h "String" ⟨trivial, own.reason⟩ (le1.reason (le.reason hw))

/-- Comparing a text with an argument matches itself. -/
lemma compareTexts_sim (h : C.Insides p q i j) (hc : c.reason contentWhy) (hw : c.reason why)
    (other : Justified) :
    C.Sim C.nativeFaults c C.Info (Native.compareTexts i content contentWhy why other)
      (Native.compareTexts j content (C.rename contentWhy) (C.rename why)
        (other.rename C.rename)) := by
  unfold Native.compareTexts
  apply Sim.bind_known (expectText_sim _ other)
  intro d result le ht
  obtain ⟨theirs, theirWhy⟩ := result
  apply Sim.bind_known (.lift (.conj _ (.cons (le.reason hc) (.one ht))))
  intro d1 result le1 own
  exact made_sim h "Bool" ⟨trivial, own.reason⟩ (le1.reason (le.reason hw))

/-- Taking the start off a text matches itself. -/
lemma exceptStart_sim (h : C.Insides p q i j) (hw : c.reason why) (start : Justified) :
    C.Sim C.nativeFaults c C.Info (Native.exceptStart i content why start)
      (Native.exceptStart j content (C.rename why) (start.rename C.rename)) := by
  unfold Native.exceptStart
  apply Sim.bind_known (expectText_sim _ start)
  intro d result le _
  obtain ⟨start, _⟩ := result
  dsimp only
  split
  all_goals
    apply Sim.bind_known (.text _)
    intro d1 reason le1 own
    exact hidden_sim h "String" ⟨trivial, own.reason⟩ (le1.reason (le.reason hw))

/-- The methods of texts match themselves. -/
lemma invokeText_sim (h : C.Insides p q i j) {this : ScopeId} (ho : c.object this)
    (hc : c.reason contentWhy) (method : String) {args : List Justified}
    (ha : Justified.AllIn c args) (hw : c.reason why) :
    C.Sim C.nativeFaults c C.Info (Native.invokeText i this content contentWhy method why args)
      (Native.invokeText j this content (C.rename contentWhy) method (C.rename why)
        (args.map (Justified.rename C.rename))) := by
  unfold Native.invokeText
  split
  · exact withNone_sim _ (.pure ⟨rfl, ho, hw⟩)
  · exact withOne_sim _ ha fun separator _ => splitText_sim h hc hw separator
  · exact withOne_sim _ ha fun other _ => joinTexts_sim h hc hw other
  · exact withOne_sim _ ha fun other _ => compareTexts_sim h hc hw other
  · exact withOne_sim _ ha fun start _ => exceptStart_sim h hw start
  · exact .refuse trivial

end Text

/-! ## Truth values -/

section Truth

variable {truth : Bool} {truthWhy : ReasonId}

/-- Comparing a truth value with an argument matches itself. -/
lemma compareTruths_sim (h : C.Insides p q i j) (ht : c.reason truthWhy) (hw : c.reason why)
    (other : Justified) :
    C.Sim C.nativeFaults c C.Info (Native.compareTruths i truth truthWhy why other)
      (Native.compareTruths j truth (C.rename truthWhy) (C.rename why)
        (other.rename C.rename)) := by
  unfold Native.compareTruths
  apply Sim.bind_known (expectTruth_sim _ other)
  intro d result le ht'
  obtain ⟨theirs, theirWhy⟩ := result
  apply Sim.bind_known (.lift (.conj _ (.cons (le.reason ht) (.one ht'))))
  intro d1 result le1 own
  exact hidden_sim h "Bool" ⟨trivial, own.reason⟩ (le1.reason (le.reason hw))

/-- The methods of truth values match themselves. -/
lemma invokeTruth_sim (h : C.Insides p q i j) (ht : c.reason truthWhy) (method : String)
    {args : List Justified} (ha : Justified.AllIn c args) (hw : c.reason why) :
    C.Sim C.nativeFaults c C.Info (Native.invokeTruth i truth truthWhy method why args)
      (Native.invokeTruth j truth (C.rename truthWhy) method (C.rename why)
        (args.map (Justified.rename C.rename))) := by
  unfold Native.invokeTruth
  split
  · exact withNone_sim _ (made_sim h "String" ⟨trivial, ht⟩ hw)
  · exact withOne_sim _ ha fun other _ => compareTruths_sim h ht hw other
  · exact .refuse trivial

end Truth

/-! ## Handing over -/

/-- The methods of all built-in classes match themselves. -/
lemma invoke_sim (h : C.Insides p q i j) {this : ScopeId} (ho : c.object this) {handle : Handle}
    (hh : handle.In c) (method : String) {args : List Justified} (ha : Justified.AllIn c args)
    (hw : c.reason why) :
    C.Sim C.nativeFaults c C.Info (Native.invoke i this handle method why args)
      (Native.invoke j this (handle.rename C.rename) method (C.rename why)
        (args.map (Justified.rename C.rename))) := by
  cases handle with
  | text => exact invokeText_sim h ho hh method ha hw
  | list => exact invokeList_sim h ho hh method ha hw
  | dict => exact invokeDict_sim h ho hh method ha hw
  | truth => exact invokeTruth_sim h hh method ha hw
  | number => exact invokeNumber_sim h hh method ha hw

/-- Looking up parameters one after the other matches itself. -/
lemma lookupVariables_sim (loc : Location) (hw : c.reason why) (names : List String) :
    C.Sim C.failures c C.Infos (lookupVariables loc why names)
      (lookupVariables loc (C.rename why) names) := by
  induction names generalizing c with
  | nil => exact .pure ⟨rfl, .nil⟩
  | cons name rest ih =>
    unfold lookupVariables
    apply Sim.bind_known (lookupVariable_sim name loc hw)
    intro d info le hi
    apply Sim.bind_known (ih (le.reason hw))
    intro e infos le1 his
    exact .pure ⟨rfl, .cons (hi.mono le1) his⟩

/-- The body of a built-in method matches itself. -/
lemma invokeNative_sim (h : C.Insides p q i j) (method : String) (params : List String)
    (loc : Location) (hw : c.reason why) :
    C.Sim C.failures c C.Flows (invokeNative i method params loc why)
      (invokeNative j method params loc (C.rename why)) := by
  unfold invokeNative
  apply Sim.bind_known (lookupVariable_sim selfName loc hw)
  intro d this le ht
  apply Sim.bind_known (lookupVariables_sim loc (le.reason hw) params)
  intro d1 args le1 ha
  apply Sim.bind_same (.renderAll args)
  intro d2 shown le2
  have later := le.trans (le1.trans le2)
  apply Sim.bind_known (.full _ _ loc (later.reason hw) (.of (Justified.AllIn.mono le2 ha)))
  intro d3 given le3 hg
  apply Sim.bind_same (.render this.value)
  intro d4 object le4
  have later := later.trans (le3.trans le4)
  have ht := ht.mono (le1.trans (le2.trans (le3.trans le4)))
  apply Sim.bind_known (.conj _ (.cons (later.reason hw) (.cons ht.why
    (.one (le4.reason hg.reason)))))
  intro d5 history le5 hh
  apply Sim.bind (.ask (P := Maybe C.Handles) fun pair => pair.handle? this.value)
  intro d6 found found' le6 rel
  have hh := hh.mono le6
  have ht := ht.value.mono (le5.trans le6)
  have refused : C.Sim C.failures d6 C.Flows
      (Action.fail (.because (.native object method "receiver has no native handle") history))
      (Action.fail (.because (.native object method "receiver has no native handle")
        (C.rename history))) :=
    .because trivial hh.reason
  obtain ⟨value, because⟩ := this
  cases value with
  | object scope =>
    cases rel with
    | none => exact refused
    | @some handle _ known =>
      obtain ⟨rfl, held⟩ := known
      have ha := ha.mono (le2.trans (le3.trans (le4.trans (le5.trans le6))))
      have later := later.trans (le5.trans le6)
      simp only [Justified.rename, Handle.builtin_rename]
      apply Sim.bind_known (.toEval _ method hh.reason
        (invoke_sim h ht held method ha hh.reason))
      intro d7 result le7 hr
      -- What is hidden was recorded by this very method, whatever the object has run since.
      apply Sim.bind_same (.hide (hh.mono le7))
      intro d8 _ le8
      apply Sim.bind_same (.render result.value)
      intro d9 rendered le9
      have later := later.trans (le7.trans (le8.trans le9))
      have hr := hr.mono (le8.trans le9)
      apply Sim.bind_known (.full _ _ loc (later.reason hw) (.one hr.why))
      intro d10 forwarded le10 hf
      apply Sim.bind_same (.hide hf)
      intro d11 _ le11
      exact .pure ⟨rfl, hr.value.mono (le10.trans le11), (hf.mono le11).reason⟩
  | _ => exact refused

end Comparison

end Because
