import Because.Native.Dict
import Because.Native.List
import Because.Proofs.Comparison.Object
import Mathlib.Data.List.InsertIdx

/-!
# Comparing dictionaries and lists

Every method of a dictionary or list matches itself: it looks only at texts, values and numbers,
and hands reasons on without looking at them.
-/

namespace Because

namespace Comparison

variable {C : Comparison} [C.Lawful] {c : Census} {p : Expr → Prop} {q : Stmt → Prop}
  {i j : Inner} {why : ReasonId}

/-- Make an object from one value, inside a method. -/
lemma made_sim (h : C.Insides p q i j) (className : String) {info : Justified} (hi : info.In c)
    (hw : c.reason why) :
    C.Sim C.nativeFaults c C.Info (liftM (newObject i className [info] why))
      (liftM (newObject j className [info.rename C.rename] (C.rename why))) :=
  .lift ((newObject_sim h className (.one hi) hw).forget)

/-- Make a hidden object from one value, inside a method. -/
lemma hidden_sim (h : C.Insides p q i j) (className : String) {info : Justified} (hi : info.In c)
    (hw : c.reason why) :
    C.Sim C.nativeFaults c C.Info (liftM (newHiddenObject i className [info] why))
      (liftM (newHiddenObject j className [info.rename C.rename] (C.rename why))) :=
  .lift ((newHiddenObject_sim h className (.one hi) hw).forget)

/-! ## Dictionaries -/

section Dict

variable {this : ScopeId} {entries : Ledger Key Entry}

/-- Getting an entry matches: corresponding keys are found at the same place. -/
lemma getEntry_sim (he : Ledger.In c entries) {key : Justified}
    (hk : key.In c) (hw : c.reason why) :
    C.Sim C.nativeFaults c C.Info (Native.getEntry this entries why key)
      (Native.getEntry this (entries.map (Entry.rename C.rename)) (C.rename why)
        (key.rename C.rename)) := by
  unfold Native.getEntry
  apply Sim.bind_same (.render key.value)
  intro d shown le
  apply Sim.bind_same (.describeScope this)
  intro d1 dict le1
  have hk := hk.value.mono (le.trans le1)
  apply Sim.bind_known (.ask (P := SameIn Key.In) fun pair => pair.key hk)
  intro d2 slot le2 _
  have later := le.trans (le1.trans le2)
  rw [Ledger.get?_map]
  cases e : entries.get? slot with
  | none =>
    apply Sim.bind_known (.lift (.conj _ (.one (later.reason hw))))
    intro d3 missing _ own
    exact .pure ⟨rfl, .none own.reason⟩
  | some entry =>
    obtain ⟨_, found⟩ := entry
    have hf := ((he.slots _ (Ledger.mem_of_get? e)).value).mono later
    apply Sim.bind_known (.lift (.conj _ (.cons (later.reason hw) (.one hf.why))))
    intro d3 retrieved le3 own
    exact .pure ⟨rfl, hf.value.mono le3, own.reason⟩

/-- Putting an entry matches: both runs put it at the same place. -/
lemma put_sim (ho : c.object this) (he : Ledger.In c entries)
    {key value : Justified} (hk : key.In c) (hv : value.In c) (hw : c.reason why) :
    C.Sim C.nativeFaults c C.Info (Native.put this entries why key value)
      (Native.put this (entries.map (Entry.rename C.rename)) (C.rename why)
        (key.rename C.rename) (value.rename C.rename)) := by
  unfold Native.put
  apply Sim.bind_same (.describeScope this)
  intro d dict le
  apply Sim.bind_same (.render key.value)
  intro d1 shownKey le1
  apply Sim.bind_same (.render value.value)
  intro d2 shownValue le2
  have later := le.trans (le1.trans le2)
  apply Sim.bind_known (.lift (.conj _ (.cons (later.reason hw)
    (.cons (later.reason hk.why) (.one (later.reason hv.why))))))
  intro d3 stored le3 own
  have later := later.trans le3
  apply Sim.bind_known (.ask (P := SameIn Key.In) fun pair => pair.key (hk.value.mono later))
  intro d4 slot le4 hs
  have later := later.trans le4
  have known : Handle.In d4 (.dict (entries.put slot ⟨key, ⟨value.value, stored⟩⟩)) :=
    (he.mono later).put hs ⟨hk.mono later, hv.value.mono later, le4.reason own.reason⟩
  have same : Handle.dict ((entries.map (Entry.rename C.rename)).put slot
      (Entry.rename C.rename ⟨key, ⟨value.value, stored⟩⟩)) =
      Handle.rename C.rename (.dict (entries.put slot ⟨key, ⟨value.value, stored⟩⟩)) :=
    congrArg Handle.dict (Ledger.put_map ..)
  apply Sim.bind_same (.setHandle (later.object ho) ⟨same, known⟩)
  intro d5 _ _
  apply Sim.bind_known .unknown
  intro d6 unknown _ own
  exact .pure ⟨rfl, .none own.reason⟩

/-- Asking whether a dictionary has a key matches. -/
lemma containsKey_sim (h : C.Insides p q i j) (he : Ledger.In c entries)
    {key : Justified} (hk : key.In c) (hw : c.reason why) :
    C.Sim C.nativeFaults c C.Info (Native.containsKey i this entries why key)
      (Native.containsKey j this (entries.map (Entry.rename C.rename)) (C.rename why)
        (key.rename C.rename)) := by
  unfold Native.containsKey
  apply Sim.bind_same (.render key.value)
  intro d shown le
  apply Sim.bind_same (.describeScope this)
  intro d1 dict le1
  have hk := hk.value.mono (le.trans le1)
  apply Sim.bind_known (.ask (P := SameIn Key.In) fun pair => pair.key hk)
  intro d2 slot le2 _
  have later := le.trans (le1.trans le2)
  rw [Ledger.get?_map]
  cases e : entries.get? slot with
  | none =>
    apply Sim.bind_known (.lift (.conj _ (.one (later.reason hw))))
    intro d3 answer le3 own
    exact hidden_sim h "Bool" ⟨trivial, own.reason⟩ (le3.reason (later.reason hw))
  | some entry =>
    obtain ⟨_, found⟩ := entry
    have hf := ((he.slots _ (Ledger.mem_of_get? e)).value).mono later
    apply Sim.bind_known (.lift (.conj _ (.cons (later.reason hw) (.one hf.why))))
    intro d3 answer le3 own
    exact hidden_sim h "Bool" ⟨trivial, own.reason⟩ (le3.reason (later.reason hw))

/-- Dictionaries that correspond serve their methods alike. -/
lemma invokeDict_sim (h : C.Insides p q i j) (ho : c.object this)
    (he : Ledger.In c entries) (method : String) {args : List Justified}
    (ha : Justified.AllIn c args) (hw : c.reason why) :
    C.Sim C.nativeFaults c C.Info (Native.invokeDict i this entries method why args)
      (Native.invokeDict j this (entries.map (Entry.rename C.rename)) method (C.rename why)
        (args.map (Justified.rename C.rename))) := by
  unfold Native.invokeDict
  split
  · exact withOne_sim _ ha fun key hk => getEntry_sim he hk hw
  · exact withTwo_sim _ ha fun key value hk hv => put_sim ho he hk hv hw
  · exact withOne_sim _ ha fun key hk => containsKey_sim h he hk hw
  · exact .refuse trivial

end Dict

/-! ## Lists -/

section List

variable {this : ScopeId} {items : List Justified}

omit [C.Lawful] in
/-- Corresponding items are shown in the same way. -/
lemma renderItems_sim (items : List Justified) :
    C.Sim C.nativeFaults c Same (Native.renderItems items)
      (Native.renderItems (items.map (Justified.rename C.rename))) := by
  unfold Native.renderItems
  apply Sim.bind_same (.renderAll items)
  intro d shown _
  exact .pure rfl

/-- Appending corresponding items to corresponding states matches. -/
lemma append_sim (ho : c.object this) (hi : Justified.AllIn c items) {item : Justified}
    (hx : item.In c) (hw : c.reason why) :
    C.Sim C.nativeFaults c Same (Native.append this items why item)
      (Native.append this (items.map (Justified.rename C.rename)) (C.rename why)
        (item.rename C.rename)) := by
  unfold Native.append
  apply Sim.bind_same (.render item.value)
  intro d shown le
  apply Sim.bind_same (renderItems_sim items)
  intro d1 contents le1
  have later := le.trans le1
  apply Sim.bind_known (.lift (.conj _ (.cons (later.reason hw) (.one (later.reason hx.why)))))
  intro d2 appended le2 own
  have later := later.trans le2
  have last : Justified.In d2 ⟨item.value, appended⟩ :=
    ⟨hx.value.mono later, own.reason⟩
  have known : Handle.In d2 (.list (items ++ [⟨item.value, appended⟩])) :=
    (Justified.AllIn.mono later hi).append (.one last)
  have same : Handle.list (items.map (Justified.rename C.rename) ++
      [⟨item.value, C.rename appended⟩]) =
      Handle.rename C.rename (.list (items ++ [⟨item.value, appended⟩])) := by
    simp [Handle.rename, Justified.rename]
  exact .setHandle (later.object ho) ⟨same, known⟩

/-- Appending corresponding items to a list matches. -/
lemma appendTo_sim {list : Value} (hl : list.In c) {item : Justified} (hx : item.In c)
    (hw : c.reason why) :
    C.Sim C.nativeFaults c Same (Native.appendTo list why item)
      (Native.appendTo list (C.rename why) (item.rename C.rename)) := by
  unfold Native.appendTo
  apply Sim.bind (.ask (P := Maybe C.Handles) fun pair => pair.handle? list)
  intro d found found' le rel
  cases list with
  | object scope =>
    cases rel with
    | none => exact .refuse trivial
    | @some handle _ known =>
      obtain ⟨rfl, hh⟩ := known
      cases handle with
      | list items => exact append_sim (le.object hl) hh (hx.mono le) (le.reason hw)
      | _ => exact .refuse trivial
  | _ => exact .refuse trivial

/-- A position lies below the length. -/
lemma position_lt {length place : Nat} (index : Option Int)
    (found : index.bind (Native.position? length) = some place) : place < length := by
  obtain ⟨index, _, found⟩ := Option.bind_eq_some_iff.1 found
  unfold Native.position? at found
  split at found
  · cases found
    omega
  · cases found

omit [C.Lawful] in
/-- Corresponding items stand at the same position. -/
lemma item_at {place : Nat} (lt : place < items.length) (hi : Justified.AllIn c items) :
    ((items.map (Justified.rename C.rename))[place]?.getD default =
      (items[place]?.getD default).rename C.rename) ∧ (items[place]?.getD default).In c := by
  simp only [List.getElem?_map, List.getElem?_eq_getElem lt]
  exact ⟨rfl, hi _ (List.getElem_mem lt)⟩

/-- Getting an item matches. -/
lemma getItem_sim (hi : Justified.AllIn c items) {index : Justified} (hx : index.In c)
    (hw : c.reason why) :
    C.Sim C.nativeFaults c C.Info (Native.getItem this items why index)
      (Native.getItem this (items.map (Justified.rename C.rename)) (C.rename why)
        (index.rename C.rename)) := by
  unfold Native.getItem
  apply Sim.bind_known (expectNumber_sim _ index)
  intro d result le _
  obtain ⟨requested, _⟩ := result
  simp only [List.length_map]
  cases e : requested.bind (Native.position? items.length) with
  | none => exact .refuse trivial
  | some place =>
    obtain ⟨same, known⟩ := item_at (C := C) (position_lt _ e) (Justified.AllIn.mono le hi)
    simp only [same]
    generalize items[place]?.getD default = item at known
    apply Sim.bind_same (.describeScope this)
    intro d1 list le1
    apply Sim.bind_same (.render item.value)
    intro d2 shown le2
    have known := known.mono (le1.trans le2)
    have later := le.trans (le1.trans le2)
    apply Sim.bind_known (.lift (.conj _ (.cons known.why (.cons (later.reason hw)
      (.one (later.reason hx.why))))))
    intro d3 returned le3 own
    exact .pure ⟨rfl, known.value.mono le3, own.reason⟩

/-- Describing the item at an index matches. -/
lemma soughtItem_sim (list : String) (hi : Justified.AllIn c items) (requested : Option Int) :
    C.Sim C.nativeFaults c C.Info (Native.soughtItem list items requested)
      (Native.soughtItem list (items.map (Justified.rename C.rename)) requested) := by
  unfold Native.soughtItem
  cases requested with
  | none =>
    apply Sim.bind_known (.text _)
    intro d missing _ own
    exact .pure ⟨rfl, .none own.reason⟩
  | some index =>
    simp only [List.length_map]
    cases e : Native.position? items.length index with
    | none =>
      apply Sim.bind_known (.text _)
      intro d missing _ own
      exact .pure ⟨rfl, .none own.reason⟩
    | some place => exact .pure (item_at (position_lt (some index) e) hi)

/-- Getting an item that may be missing matches. -/
lemma tryGetItem_sim (hi : Justified.AllIn c items) {index : Justified} (hx : index.In c)
    (hw : c.reason why) :
    C.Sim C.nativeFaults c C.Info (Native.tryGetItem this items why index)
      (Native.tryGetItem this (items.map (Justified.rename C.rename)) (C.rename why)
        (index.rename C.rename)) := by
  unfold Native.tryGetItem
  apply Sim.bind_known (expectNumber_sim _ index)
  intro d result le _
  obtain ⟨requested, _⟩ := result
  apply Sim.bind_same (.describeScope this)
  intro d1 list le1
  apply Sim.bind_known (soughtItem_sim list (Justified.AllIn.mono (le.trans le1) hi) requested)
  intro d2 item le2 known
  apply Sim.bind_same (.render item.value)
  intro d3 shown le3
  have later := le.trans (le1.trans (le2.trans le3))
  apply Sim.bind_known (.lift (.conj _ (.cons (le3.reason known.why) (.cons (later.reason hw)
    (.one (later.reason hx.why))))))
  intro d4 returned le4 own
  exact .pure ⟨rfl, known.value.mono (le3.trans le4), own.reason⟩

/-- Removing an item matches. -/
lemma removeItem_sim (ho : c.object this) (hi : Justified.AllIn c items) (index : Justified) :
    C.Sim C.nativeFaults c C.Info (Native.removeItem this items index)
      (Native.removeItem this (items.map (Justified.rename C.rename))
        (index.rename C.rename)) := by
  unfold Native.removeItem
  apply Sim.bind_known (expectNumber_sim _ index)
  intro d result le _
  obtain ⟨requested, _⟩ := result
  simp only [List.length_map]
  cases requested.bind (Native.position? items.length) with
  | none => exact .refuse trivial
  | some place =>
    have known : Handle.In d (.list (items.eraseIdx place)) :=
      (Justified.AllIn.mono le hi).subset List.eraseIdx_subset
    have same : Handle.list ((items.map (Justified.rename C.rename)).eraseIdx place) =
        Handle.rename C.rename (.list (items.eraseIdx place)) :=
      congrArg Handle.list ((List.eraseIdx_map _ _ _))
    apply Sim.bind_same (.setHandle (le.object ho) ⟨same, known⟩)
    intro d1 _ _
    apply Sim.bind_known .unknown
    intro d2 unknown _ own
    exact .pure ⟨rfl, .none own.reason⟩

/-- Counting items matches. -/
lemma countItems_sim (h : C.Insides p q i j) (hi : Justified.AllIn c items)
    (hw : c.reason why) :
    C.Sim C.nativeFaults c C.Info (Native.countItems i this items why)
      (Native.countItems j this (items.map (Justified.rename C.rename)) (C.rename why)) := by
  unfold Native.countItems
  apply Sim.bind_same (.describeScope this)
  intro d list le
  simp only [List.length_map]
  apply Sim.bind_known (.lift (.conj _ (.of (Justified.AllIn.mono le hi))))
  intro d1 counted le1 own
  exact hidden_sim h "Num" ⟨trivial, own.reason⟩ (le1.reason (le.reason hw))

/-- The texts of corresponding items match. -/
lemma itemTexts_sim (h : C.Insides p q i j) (hi : Justified.AllIn c items)
    (hw : c.reason why) :
    C.Sim C.nativeFaults c Same (Native.itemTexts i why items)
      (Native.itemTexts j (C.rename why) (items.map (Justified.rename C.rename))) := by
  induction items generalizing c with
  | nil => exact .pure rfl
  | cons item rest ih =>
    obtain ⟨first, others⟩ := List.forall_mem_cons.1 hi
    unfold Native.itemTexts
    apply Sim.bind_known (.lift (callMethod_sim h first "toString" .nil hw))
    intro d converted le _
    apply Sim.bind_known (expectText_sim _ converted)
    intro d1 result le1 _
    obtain ⟨content, _⟩ := result
    have later := le.trans le1
    apply Sim.bind_same (ih (Justified.AllIn.mono later others) (later.reason hw))
    intro d2 contents _
    exact .pure rfl

/-- The texts of corresponding lists match. -/
lemma listToString_sim (h : C.Insides p q i j) (hi : Justified.AllIn c items)
    (hw : c.reason why) :
    C.Sim C.nativeFaults c C.Info (Native.listToString i items why)
      (Native.listToString j (items.map (Justified.rename C.rename)) (C.rename why)) := by
  unfold Native.listToString
  apply Sim.bind_same (itemTexts_sim h hi hw)
  intro d contents le
  apply Sim.bind_known (.lift (.conj _ (.cons (le.reason hw) (.of (Justified.AllIn.mono le hi)))))
  intro d1 elements le1 own
  exact hidden_sim h "String" ⟨trivial, own.reason⟩ (le1.reason (le.reason hw))

/-- Lists that correspond serve their methods alike. -/
lemma invokeList_sim (h : C.Insides p q i j) (ho : c.object this)
    (hi : Justified.AllIn c items) (method : String) {args : List Justified}
    (ha : Justified.AllIn c args) (hw : c.reason why) :
    C.Sim C.nativeFaults c C.Info (Native.invokeList i this items method why args)
      (Native.invokeList j this (items.map (Justified.rename C.rename)) method (C.rename why)
        (args.map (Justified.rename C.rename))) := by
  unfold Native.invokeList
  split
  · refine withOne_sim _ ha fun item hx => ?_
    apply Sim.bind_same (append_sim ho hi hx hw)
    intro d _ le
    exact .pure ⟨rfl, .none (le.reason hw)⟩
  · refine withNone_sim _ ?_
    have empty : C.Handles c (.list []) (.list []) := ⟨rfl, Justified.AllIn.nil⟩
    apply Sim.bind_same (.setHandle ho empty)
    intro d _ _
    apply Sim.bind_known .unknown
    intro d1 unknown _ own
    exact .pure ⟨rfl, .none own.reason⟩
  · exact withOne_sim _ ha fun index hx => getItem_sim hi hx hw
  · exact withOne_sim _ ha fun index hx => tryGetItem_sim hi hx hw
  · exact withOne_sim _ ha fun index _ => removeItem_sim ho hi index
  · exact withNone_sim _ (countItems_sim h hi hw)
  · exact withNone_sim _ (listToString_sim h hi hw)
  · exact .refuse trivial

end List

end Comparison

end Because
