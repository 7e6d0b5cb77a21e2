import Because.Proofs.Builtins
import Because.Proofs.Chronicle.Mutation

/-!
# Lists that are filled

A list that is filled as soon as it has been made gets one object after the other. Nothing else
changes meanwhile, apart from reasons and further objects that are made; so the list holds these
objects in the end, and they have the states that they were made with.
-/

namespace Because

namespace Session

variable {α : Type} {s s' t : Session} {builtin : Builtin} {state : α → ReasonId → Handle}
  {infos : List Justified} {i : ScopeId} {x : α} {xs : List α} {why : ReasonId} {inner : Inner}

/-! ## What is read of states -/

/-- The text that a String object holds. -/
def content? (s : Session) (value : Value) : Option String := (s.textOf? value).map Prod.fst

/-- An object that is a number has this number. -/
lemma Is.number {number : Option Int} {value : Value} (is : Is (Handle.number number) value s) :
    s.number? value = some number := by
  obtain ⟨why, found, -⟩ := is
  simp only [number?, numberOf?, found]
  rfl

/-- An object that is a number is shown in its digits. -/
lemma Is.shows_number {n : Int} {value : Value} (is : Is (Handle.number (some n)) value s) :
    s.render value = toString n := by
  obtain ⟨i, rfl⟩ := is.object
  obtain ⟨why, found, -⟩ := is
  simp only [render, found, Option.bind_some, Handle.display?, Option.getD_some]
  rfl

/-- An object that is a text has this text. -/
lemma Is.content {content : String} {value : Value} (is : Is (Handle.text content) value s) :
    s.content? value = some content := by
  obtain ⟨why, found, -⟩ := is
  simp only [content?, textOf?, found]
  rfl

/-- A number is accepted where a number is required. -/
lemma expectNumber_is {number : Option Int} {info : Justified} {numberWhy : ReasonId}
    (found : s.handle? info.value = some (.number number numberWhy)) (method : String) :
    Native.expectNumber method info s = .done (number, numberWhy) s := by
  simp only [Native.expectNumber, Bind.bind, Action.ask, numberOf?, found]
  rfl

/-- A text is accepted where a text is required. -/
lemma expectText_is {content : String} {info : Justified} {contentWhy : ReasonId}
    (found : s.handle? info.value = some (.text content contentWhy)) (method : String) :
    Native.expectText method info s = .done (content, contentWhy) s := by
  simp only [Native.expectText, Bind.bind, Action.ask, textOf?, found]
  rfl

/-- What is read of operands. -/
lemma reads_of {read : Value → Option α} {states : List α}
    (reads : ∀ {value x}, Is (state x) value s → read value = some x)
    (are : List.Forall₂ (fun info x => Is (state x) info.value s) infos states) :
    infos.map (read ·.value) = states.map some := by
  induction are with
  | nil => rfl
  | cons is _ ih => rw [List.map_cons, List.map_cons, reads is, ih]

/-- Objects with states of a built-in class are of this class. -/
lemma classes_of {states : List α} (ofClass : ∀ x why, (state x why).builtin = builtin)
    (are : List.Forall₂ (fun info x => Is (state x) info.value s) infos states) :
    ∀ item ∈ infos.map Justified.value, s.classOf? item = some builtin.classId := by
  induction are with
  | nil => exact List.forall_mem_nil _
  | @cons _ x _ _ is _ ih =>
    obtain ⟨why, -, -, isBuiltin⟩ := is
    rw [ofClass] at isBuiltin
    exact List.forall_mem_cons.2 ⟨isBuiltin, ih⟩

/-! ## Lists of new objects -/

/-- The value is a list of objects that have these states. -/
def ListOf (state : α → ReasonId → Handle) (xs : List α) (value : Value) (s : Session) : Prop :=
  ∃ items, s.handle? value = some (.list items) ∧
    s.classOf? value = some Builtin.list.classId ∧ s.graph.Knows (reasons items) ∧
    List.Forall₂ (fun info x => Is (state x) info.value s) items xs

/-- A list of objects stays what it is as long as no state changes. -/
lemma stays_listOf (state : α → ReasonId → Handle) (xs : List α) : Stays (ListOf state xs) := by
  rintro s s' value written alters ⟨items, found, ofClass, known, are⟩
  exact ⟨items, alters.handle? (fun _ _ => id) found, alters.classOf? ofClass, alters.knows known,
    are.imp fun _ _ is => stays_is _ alters is⟩

/-- Since the list was made, which is not there in `s`, it has got objects with these states, and
nothing else has changed. -/
structure Filled (s : Session) (i : ScopeId) (state : α → ReasonId → Handle) (xs : List α)
    (t : Session) : Prop where
  adds : s.Adds t
  quiet : s.Quiet t
  new : Nat.le s.scopes.size i
  lists : ListOf state xs (.object i) t

/-- An object that is no list keeps its state when a list changes. -/
lemma Is.restate {items : List Justified} {new : Handle} {value : Value}
    (is : Is (state x) value s) (list : s.handle? (.object i) = some (.list items))
    (other : ∀ why, (state x why).builtin ≠ .list) (same : s'.scopes = s.scopes.restate i new)
    (grows : s.graph.size ≤ s'.graph.size) : Is (state x) value s' := by
  obtain ⟨j, rfl⟩ := is.object
  obtain ⟨stateWhy, found, recorded, ofClass⟩ := is
  have ne : i ≠ j := by
    rintro rfl
    exact other stateWhy (congrArg Handle.builtin (Option.some_inj.1 (found.symm.trans list)))
  refine ⟨stateWhy, ?_, Nat.lt_of_lt_of_le recorded grows, ?_⟩
  · rw [handle?_restate list same, if_neg ne, found]
  · rw [classOf?_restate same, ofClass]

/-- A list that has been filled stays so when reasons are recorded. -/
lemma Filled.notes (h : s.Filled i state xs t) (notes : t.Notes s') :
    s.Filled i state xs s' where
  adds := h.adds.trans (.of_notes notes)
  quiet := h.quiet.trans (.of_notes notes)
  new := h.new
  lists := (stays_listOf state xs).adds (.of_notes notes) h.lists

/-- A list of objects gets another one. -/
lemma ListOf.append (lists : ListOf state xs (.object i) t)
    (other : ∀ x why, (state x why).builtin ≠ .list) {item : Justified}
    (is : Is (state x) item.value t) (known : t.graph.Knows [why, item.why]) :
    ∃ items new t', t.handle? (.object i) = some (.list items) ∧ t.Notes t' ∧
      Native.append i items why item t =
        .done () { t' with scopes := t.scopes.restate i new } ∧
      ListOf state (xs ++ [x]) (.object i) { t' with scopes := t.scopes.restate i new } := by
  obtain ⟨items, found, ofClass, recorded, are⟩ := lists
  obtain ⟨appended, t', notes, fresh, done⟩ := append_done i items known
  let new : Handle := .list (items ++ [⟨item.value, appended⟩])
  have keeps {y : α} {value : Value} (is : Is (state y) value t) :
      Is (state y) value { t' with scopes := t.scopes.restate i new } :=
    is.restate found (other y) rfl notes.graph
  refine ⟨items, new, t', found, notes, done, items ++ [⟨item.value, appended⟩], ?_, ?_, ?_, ?_⟩
  · rw [handle?_restate found rfl, if_pos rfl]
  · rw [classOf?_restate rfl, ofClass]
  · have both : reasons (items ++ [⟨item.value, appended⟩]) = reasons items ++ [appended] :=
      List.map_append
    rw [both]
    exact List.forall_mem_append.2 ⟨notes.knows recorded, List.forall_mem_singleton.2 fresh⟩
  · exact List.rel_append (are.imp fun _ _ is => keeps is) (.cons (keeps is) .nil)

/-- The list gets another object. -/
lemma Filled.append (h : s.Filled i state xs t) (other : ∀ x why, (state x why).builtin ≠ .list)
    {item : Justified} {t1 : Session} (adds : t.Adds t1) (quiet : t.Quiet t1)
    (is : Is (state x) item.value t1) (known : t1.graph.Knows [why, item.why]) :
    ∃ t2, Native.appendTo (.object i) why item t1 = .done () t2 ∧
      s.Filled i state (xs ++ [x]) t2 ∧ t1.graph.size ≤ t2.graph.size := by
  obtain ⟨items, new, t2, list, notes, done, lists⟩ :=
    ((stays_listOf state xs).adds adds h.lists).append other is known
  have before := h.adds.trans adds
  refine ⟨{ t2 with scopes := t1.scopes.restate i new }, ?_, ⟨?_, ?_, h.new, lists⟩, notes.graph⟩
  · rw [← done]
    simp only [Native.appendTo, Bind.bind, Action.ask, list]
  · refine ⟨Nat.le_trans before.graph notes.graph, ?_, fun j lt => ?_, ?_, ?_⟩
    · rw [Scopes.restate, Scopes.size_update]
      exact before.scopes
    · have ne : i ≠ j := fun here => absurd (here ▸ h.new) (Nat.not_le.2 lt)
      rw [Scopes.restate, Scopes.scopeAt_update, if_neg fun both => ne both.1, before.old j lt]
    · exact (congrArg Session.classes notes.same).trans before.classes
    · exact (congrArg Session.functions notes.same).trans before.functions
  · have later := (h.quiet.trans quiet).trans (.of_notes notes)
    exact ⟨⟨later.entered, later.calls⟩, later.console⟩

/-- Another object is made, and then the list gets it. -/
lemma Filled.makes (h : s.Filled i state xs t) (works : s.Works) (names : s.Names builtin)
    (value : Value) {given : ReasonId}
    (constructs : Native.construct builtin [⟨value, given⟩] =
      Action.ofExcept (.ok (state x given)))
    (ofClass : ∀ x why, (state x why).builtin = builtin) (other : builtin ≠ .list)
    (known : t.graph.Knows [why, given]) (inner : Inner) :
    ∃ item t1 t2,
      Because.newHiddenObject inner builtin.name [⟨value, given⟩] why t = .done item t1 ∧
      Native.appendTo (.object i) why item t1 = .done () t2 ∧
      s.Filled i state (xs ++ [x]) t2 ∧ t.graph.size ≤ t2.graph.size := by
  obtain ⟨object, made, t1, gives⟩ := (h.adds.works works).newHiddenObject_gives
    (h.adds.names works names) constructs (ofClass x given) known inner
  obtain ⟨recorded, supported⟩ := List.forall_mem_cons.1 (gives.adds.knows known)
  obtain ⟨-, found, isBuiltin⟩ := gives.holds
  have is : Is (state x) (.object object) t1 := by
    refine ⟨given, found, supported _ List.mem_cons_self, ?_⟩
    rw [ofClass, isBuiltin]
  let item : Justified := ⟨.object object, made⟩
  have supported : t1.graph.Knows [why, item.why] :=
    List.forall_mem_cons.2 ⟨recorded, List.forall_mem_singleton.2 gives.recorded⟩
  obtain ⟨t2, appends, filled, grows⟩ := h.append (fun x why => (ofClass x why).symm ▸ other)
    gives.adds gives.quiet is supported
  exact ⟨item, t1, t2, gives.done, appends, filled, Nat.le_trans gives.adds.graph grows⟩

/-- A list has been made, which is empty. -/
lemma Works.newList_fills (works : s.Works) (names : s.Names .list) (state : α → ReasonId → Handle)
    (recorded : Nat.lt why s.graph.size) (inner : Inner) :
    ∃ i made t, Because.newHiddenObject inner "List" [] why s = .done ⟨.object i, made⟩ t ∧
      s.Filled i state [] t := by
  have makes : Native.construct .list [] = Action.ofExcept (.ok (.list [])) := rfl
  have supported : s.graph.Knows (why :: reasons []) := List.forall_mem_singleton.2 recorded
  obtain ⟨i, made, t, gives⟩ := works.newHiddenObject_gives names makes rfl supported inner
  obtain ⟨same, found, ofClass⟩ := gives.holds
  cases same
  exact ⟨_, made, t, gives.done, gives.adds, gives.quiet, Nat.le_refl _, [], found, ofClass,
    List.forall_mem_nil _, .nil⟩

/-- The list gets a String object for each part. -/
lemma Filled.appendParts {done : List String} (h : s.Filled i Handle.text done t) (works : s.Works)
    (names : s.Names .string) (recorded : Nat.lt why t.graph.size) (inner : Inner)
    (parts : List String) :
    ∃ t', Native.appendParts inner (.object i) why parts t = .done () t' ∧
      s.Filled i Handle.text (done ++ parts) t' ∧ t.graph.size ≤ t'.graph.size := by
  induction parts generalizing t done with
  | nil =>
    rw [List.append_nil]
    exact ⟨t, rfl, h, Nat.le_refl _⟩
  | cons part rest ih =>
    have known : t.graph.Knows [why, why] :=
      List.forall_mem_cons.2 ⟨recorded, List.forall_mem_singleton.2 recorded⟩
    obtain ⟨item, t1, t2, made, appends, filled, grows⟩ := h.makes (x := part) works names
      (.str part) rfl (fun _ _ => rfl) (by decide) known inner
    obtain ⟨t3, others, filled', grows'⟩ := ih filled (Nat.lt_of_lt_of_le recorded grows)
    rw [List.append_assoc] at filled'
    have made : Because.newHiddenObject inner "String" [⟨.str part, why⟩] why t = .done item t1 :=
      made
    refine ⟨t3, ?_, filled', Nat.le_trans grows grows'⟩
    rw [Native.appendParts, Action.bind_done (Action.lift_done made), Action.bind_done appends,
      others]

/-- The numbers from one on begin with this one. -/
lemma map_range_succ (count : Nat) (number : Int) :
    (List.range (count + 1)).map (fun k : Nat => some (number + k)) =
      some number :: (List.range count).map fun k : Nat => some (number + 1 + k) := by
  have next : (fun k : Nat => some (number + k)) ∘ Nat.succ =
      fun k : Nat => some (number + 1 + k) := by
    refine funext fun k => congrArg some ?_
    rw [Nat.succ_eq_add_one, Int.natCast_succ]
    omega
  rw [List.range_succ_eq_map, List.map_cons, List.map_map, next]
  exact congrArg (some · :: _) (Int.add_zero number)

/-- The list gets a Num object for each of so many numbers. -/
lemma Filled.fillRange {done : List (Option Int)} (h : s.Filled i Handle.number done t)
    (works : s.Works) (names : s.Names .num) (recorded : Nat.lt why t.graph.size) (inner : Inner)
    (count : Nat) (number : Int) :
    ∃ t', Because.fillRange inner (.object i) why count number t = .done () t' ∧
      s.Filled i Handle.number
        (done ++ (List.range count).map fun k : Nat => some (number + k)) t' := by
  induction count generalizing t done number with
  | zero =>
    rw [List.range_zero, List.map_nil, List.append_nil]
    exact ⟨t, rfl, h⟩
  | succ count ih =>
    let t0 : Session := { t with graph := t.graph.push .unknown [] none }
    have size : t0.graph.size = t.graph.size + 1 := Graph.size_push ..
    have notes : t.Notes t0 := .leaf trivial
    have fresh : Nat.lt t.graph.size t0.graph.size :=
      Nat.lt_of_lt_of_eq (Nat.lt_succ_self _) size.symm
    have known : t0.graph.Knows [why, t.graph.size] :=
      List.forall_mem_cons.2
        ⟨Nat.lt_of_lt_of_le recorded notes.graph, List.forall_mem_singleton.2 fresh⟩
    obtain ⟨item, t1, t2, made, appends, filled, grows⟩ := (h.notes notes).makes (x := some number)
      works names (.int number) rfl (fun _ _ => rfl) (by decide) known inner
    have enough := Nat.lt_of_lt_of_le recorded (Nat.le_trans notes.graph grows)
    obtain ⟨t3, others, filled'⟩ := ih filled enough (number + 1)
    have made : Because.newHiddenObject inner "Num" [⟨.int number, t.graph.size⟩] why t0 =
        .done item t1 := made
    have appended : (Native.appendTo (.object i) why item).toEval "List" "append" why t1 =
        .done () t2 := by
      simp only [Native.toEval, Action.mapError, appends]
    have runs : Because.fillRange inner (.object i) why (count + 1) number t =
        (Because.newHiddenObject inner "Num" [⟨.int number, t.graph.size⟩] why >>= fun item =>
          (Native.appendTo (.object i) why item).toEval "List" "append" why >>= fun _ =>
            Because.fillRange inner (.object i) why count (number + 1)) t0 := rfl
    refine ⟨t3, ?_, ?_⟩
    · rw [runs, Action.bind_done made, Action.bind_done appended, others]
    · rw [map_range_succ, List.append_cons]
      exact filled'

end Session

end Because
