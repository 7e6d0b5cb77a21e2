import Because.Proofs.Dictionaries
import Because.Proofs.Evaluation
import Because.Proofs.Parts
import Because.Proofs.Sums

/-!
# Programs that work with collections

What programs get of texts, lists and dictionaries: a text that is split at another one, whether a
dictionary has a key, how long a list is and what it is shown as, and texts that are put together.
A list gets another item and a dictionary another key where the method says so; whatever else there
is stays as it was.
-/

namespace Because

namespace Session

variable {α : Type} {s s' now t : Session} {builtin : Builtin} {steps : Nat} {name : String}
  {why : ReasonId} {i : ScopeId} {P Q : Value → Session → Prop} {state : α → ReasonId → Handle}
  {x : α} {xs : List α} {keys : List Key} {key : Key} {object arg first second : Expr}

/-! ## Expressions in later sessions -/

/-- The expression also evaluates so when further reasons and objects have been made. -/
def Yields (s : Session) (steps : Nat) (expr : Expr) (P : Value → Session → Prop) : Prop :=
  ∀ ⦃s'⦄, s.Adds s' → s.Quiet s' → s'.Evaluates steps expr P

/-- What an expression yields may be said less exactly. -/
lemma Yields.mono {expr : Expr} (h : s.Yields steps expr P)
    (weaker : ∀ value s', P value s' → Q value s') : s.Yields steps expr Q :=
  fun _ adds quiet => (h adds quiet).mono weaker

namespace Apt

variable (h : s.Apt)

include h

/-- A variable yields the object that its name means. -/
lemma variable_yields (means : s.meaning? name = some (.object i)) (stays : Stays P)
    (holds : P (.object i) s) (steps : Nat) (loc : Location) :
    s.Yields (steps + 1) (.get loc name) fun value s' => value = .object i ∧ P value s' := by
  intro s' adds quiet
  refine (h.after adds quiet.toSameStacks).variable_evaluates ?_ stays (stays.adds adds holds)
    steps loc
  rw [h.meaning? adds.unaltered quiet.toSameStacks fun _ _ => id, means]

/-- A String with a given text is yielded as long as the name of the class has not been taken. -/
lemma string_yields (names : s.Names .string) (steps : Nat) (loc : Location) (text : String) :
    s.Yields (steps + 2) (.string loc text) (Is (Handle.text text)) := fun _ adds _ =>
  (adds.works h.toWorks).string_evaluates (adds.names h.toWorks names) steps loc text

/-- A Bool with a given truth value is yielded as long as the name of the class has not been taken.
-/
lemma boolean_yields (names : s.Names .bool) (steps : Nat) (loc : Location) (truth : Bool) :
    s.Yields (steps + 2) (.boolean loc truth) (Is (Handle.truth truth)) := fun _ adds _ =>
  (adds.works h.toWorks).boolean_evaluates (adds.names h.toWorks names) steps loc truth

end Apt

/-- Two arguments, one after the other. -/
lemma Yields.both (h : s.Yields steps first P) (h' : s.Yields steps second Q) (stays : Stays P)
    (adds : s.Adds s') (quiet : s.Quiet s') (recorded : Nat.lt why s'.graph.size) :
    s'.GivesAll (fun values s' => ∃ x y, values = [x, y] ∧ P x s' ∧ Q y s')
      (evalArgs (.within steps) why [first, second] s') := by
  refine (h adds quiet why recorded).both (fun i w s'' given => ?_) stays
  exact h' (adds.trans given.adds) (quiet.trans given.quiet) why
    (Nat.lt_of_lt_of_le recorded given.adds.graph)

/-! ## What methods give -/

/-- An object gives what a method without arguments gives of its state. -/
lemma GivenAs.methodCall_alone {method : String} {handle : Handle} (loc : Location) (apt : s.Apt)
    (recorded : Nat.lt why s.graph.size) (room : s.calls.isFull = false) {w : ReasonId}
    (given : s.GivenAs P (Because.eval (steps + 2) object why s) i w now)
    (declared : (method, []) ∈ builtin.methods)
    (state : now.handle? (.object i) = some handle)
    (ofClass : now.classOf? (.object i) = some builtin.classId) (stays : Stays Q)
    (serves : ∀ {t history}, now.Adds t → (∃ frame, t.calls = s.calls.enter frame) →
      Nat.lt history t.graph.size →
      t.Gives Q (Native.invoke (.within steps) i handle method history [] t)) :
    s.Gives Q (Because.eval (steps + 3) (.methodCall loc object method []) why s) := by
  refine given.methodCall_gives loc apt recorded room declared state ofClass rfl
    (fun s1 _ => givesAll_nil s1 _ why) stays ?_
  intro infos s2 t history infos' adds quiet none handed
  obtain rfl := List.map_eq_nil_iff.1 (handed.values.trans none)
  obtain ⟨frame, deeper⟩ := handed.calls
  exact serves (adds.trans handed.adds) ⟨frame, quiet.calls ▸ deeper⟩
    (handed.known _ List.mem_cons_self)

/-- An object gives what a method with one argument gives of its state. -/
lemma GivenAs.methodCall_one {method param : String} {handle : Handle} (loc : Location)
    (apt : s.Apt) (recorded : Nat.lt why s.graph.size) (room : s.calls.isFull = false)
    {w : ReasonId} (given : s.GivenAs P (Because.eval (steps + 2) object why s) i w now)
    (declared : (method, [param]) ∈ builtin.methods)
    (state : now.handle? (.object i) = some handle)
    (ofClass : now.classOf? (.object i) = some builtin.classId) {A : Value → Session → Prop}
    (argument : s.Yields (steps + 2) arg A) (staysArgument : Stays A) (stays : Stays Q)
    (serves : ∀ {t history info}, now.Adds t → A info.value t → t.graph.Knows [history, info.why] →
      t.Gives Q (Native.invoke (.within steps) i handle method history [info] t)) :
    s.Gives Q (Because.eval (steps + 3) (.methodCall loc object method [arg]) why s) := by
  have arguments (s1 : Session) (notes : now.Notes s1) :
      s1.GivesAll (Single A) (evalArgs (.within (steps + 2)) why [arg] s1) := by
    have adds := given.adds.trans (.of_notes notes)
    exact (argument adds (given.quiet.trans (.of_notes notes)) why
      (Nat.lt_of_lt_of_le recorded adds.graph)).all
  refine given.methodCall_gives loc apt recorded room declared state ofClass rfl arguments stays ?_
  rintro infos s2 t history infos' adds - ⟨value, single, holds⟩ handed
  obtain ⟨⟨_, argWhy⟩, rfl, rfl⟩ := List.map_eq_singleton_iff.1 single
  obtain ⟨argGiven, rfl, known⟩ := handed.one
  exact serves (adds.trans handed.adds) (staysArgument.adds handed.adds holds) known

/-- A text is split at another one. -/
lemma Apt.split_evaluates (h : s.Apt) (strings : s.Names .string) (lists : s.Names .list)
    (room : s.calls.isFull = false) {content sep : String}
    (receiver : s.Evaluates (steps + 2) object (Is (Handle.text content)))
    (separator : s.Yields (steps + 2) arg (Is (Handle.text sep))) (loc : Location) :
    s.Evaluates (steps + 3) (.methodCall loc object "split" [arg])
      (ListOf Handle.text (Text.split sep content)) := by
  intro why recorded
  obtain ⟨i, w, now, given⟩ := receiver why recorded
  obtain ⟨textWhy, found, known, ofClass⟩ := given.holds
  have declared : ("split", ["separator"]) ∈ Builtin.string.methods := by decide
  refine given.methodCall_one loc h recorded room declared found ofClass separator (stays_is _)
    (stays_listOf _ _) ?_
  rintro t history info adds ⟨sepWhy, foundSep, knownSep, -⟩ supported
  have all := given.adds.trans adds
  have supported : t.graph.Knows [history, textWhy, sepWhy] :=
    List.forall_mem_cons.2 ⟨supported _ List.mem_cons_self, List.forall_mem_cons.2
      ⟨Nat.lt_of_lt_of_le known adds.graph, List.forall_mem_singleton.2 knownSep⟩⟩
  exact (all.works h.toWorks).splitText_gives (all.names h.toWorks strings)
    (all.names h.toWorks lists) foundSep supported _

/-! ## Lists -/

/-- By the name of the built-in class, an empty list is made. -/
lemma Apt.newList_evaluates (h : s.Apt) (names : s.Names .list) (state : α → ReasonId → Handle)
    (steps : Nat) (loc : Location) :
    s.Evaluates (steps + 1) (.new loc "List" []) (ListOf state []) := by
  intro why recorded
  have makes : Native.construct .list [] = Action.ofExcept (.ok (.list [])) := rfl
  have known : s.graph.Knows (why :: reasons []) := List.forall_mem_singleton.2 recorded
  have done : evalArgs (.within steps) why [] s = .done [] s := rfl
  refine (h.evalNew_gives names done known makes rfl).mono ?_
  rintro value s' ⟨found, ofClass⟩
  exact ⟨[], found, ofClass, List.forall_mem_nil _, .nil⟩

/-- The length of a list is the number of its items. -/
lemma Apt.length_evaluates (h : s.Apt) (names : s.Names .num) (room : s.calls.isFull = false)
    (list : s.Evaluates (steps + 2) object (ListOf state xs)) (loc : Location) :
    s.Evaluates (steps + 3) (.methodCall loc object "getLength" [])
      (Is (Handle.number (some xs.length))) := by
  intro why recorded
  obtain ⟨i, w, now, given⟩ := list why recorded
  obtain ⟨items, found, ofClass, supported, are⟩ := given.holds
  have declared : ("getLength", []) ∈ Builtin.list.methods := by decide
  refine given.methodCall_alone loc h recorded room declared found ofClass (stays_is _) ?_
  intro t history adds _ fresh
  have all := given.adds.trans adds
  have known : t.graph.Knows (history :: reasons items) :=
    List.forall_mem_cons.2 ⟨fresh, adds.knows supported⟩
  rw [← are.length_eq]
  exact (all.works h.toWorks).countItems_gives (all.names h.toWorks names) i known _

/-- Texts are shown as they are. -/
lemma Works.itemTexts_done (works : s.Works) (room : s.calls.isFull = false)
    (recorded : Nat.lt why s.graph.size) {items : List Justified} {texts : List String}
    (are : List.Forall₂ (fun info x => Is (Handle.text x) info.value s) items texts) :
    ∃ s', Native.itemTexts (.within (steps + 2)) why items s = .done texts s' ∧ s.Adds s' ∧
      s.Quiet s' := by
  induction items generalizing s texts with
  | nil =>
    cases are
    exact ⟨s, rfl, .refl s, .refl s⟩
  | cons item rest ih =>
    obtain _ | ⟨is, are⟩ := are
    rename_i text texts
    obtain ⟨textWhy, found, known, ofClass⟩ := is
    have declared : ("toString", []) ∈ Builtin.string.methods := by decide
    obtain ⟨i, w, s1, given⟩ : s.Gives (Is (Handle.text text))
        (Because.callMethod (.within (steps + 2)) item "toString" [] why s) := by
      refine works.callMethod_gives declared ofClass found rfl room
        (List.forall_mem_singleton.2 recorded) (stays_is _) ?_
      intro i now history infos is handed
      obtain rfl := List.map_eq_nil_iff.1 handed.values
      refine ⟨i, history, now, rfl, .refl now, .refl now, handed.known _ List.mem_cons_self, ?_⟩
      rw [← is]
      exact (stays_is _).adds handed.adds ⟨textWhy, found, known, ofClass⟩
    obtain ⟨shownWhy, shown, -⟩ := given.holds
    obtain ⟨s2, others, adds, quiet⟩ := ih (given.adds.works works) (given.quiet.calls ▸ room)
      (Nat.lt_of_lt_of_le recorded given.adds.graph)
      (are.imp fun _ _ is => (stays_is _).adds given.adds is)
    refine ⟨s2, ?_, given.adds.trans adds, given.quiet.trans quiet⟩
    rw [Native.itemTexts, Action.bind_done (Action.lift_done given.done),
      Action.bind_done (expectText_is shown _)]
    dsimp only
    rw [Action.bind_done others]
    rfl

/-- A list of texts is shown as all of them, one after the other. -/
lemma Apt.listText_evaluates (h : s.Apt) (names : s.Names .string) (room : s.calls.isFull = false)
    (deeper : ∀ frame, (s.calls.enter frame).isFull = false) {texts : List String}
    (list : s.Evaluates (steps + 4) object (ListOf Handle.text texts)) (loc : Location) :
    s.Evaluates (steps + 5) (.methodCall loc object "toString" [])
      (Is (Handle.text ("[" ++ ", ".intercalate texts ++ "]"))) := by
  intro why recorded
  obtain ⟨i, w, now, given⟩ := list why recorded
  obtain ⟨items, found, ofClass, supported, are⟩ := given.holds
  have declared : ("toString", []) ∈ Builtin.list.methods := by decide
  refine given.methodCall_alone loc h recorded room declared found ofClass (stays_is _) ?_
  rintro t history adds ⟨frame, calls⟩ fresh
  have all := given.adds.trans adds
  obtain ⟨t1, shows, adds1, quiet1⟩ := (all.works h.toWorks).itemTexts_done
    (calls ▸ deeper frame) fresh (are.imp fun _ _ is => (stays_is _).adds adds is)
  have known : t1.graph.Knows (history :: reasons items) :=
    List.forall_mem_cons.2
      ⟨Nat.lt_of_lt_of_le fresh adds1.graph, adds1.knows (adds.knows supported)⟩
  have later := all.trans adds1
  let shown := "[" ++ ", ".intercalate texts ++ "]"
  have made := (later.works h.toWorks).made_gives (later.names h.toWorks names) (.str shown)
    (.text shown) (fun _ => rfl) (fun _ => rfl) known (Nat.lt_of_lt_of_le fresh adds1.graph)
    s!"Returned List.toString() = {shown}" (.within (steps + 2))
  have runs : Native.invoke (.within (steps + 2)) i (.list items) "toString" history [] t =
      Native.listToString (.within (steps + 2)) items history t := rfl
  refine Gives.after adds1 quiet1 ?_
  rw [runs, Native.listToString, Action.bind_done shows]
  exact made

/-! ## Dictionaries -/

/-- The value is a dictionary with these keys. -/
def DictOf (keys : List Key) (value : Value) (s : Session) : Prop :=
  ∃ entries : Ledger Key Entry, s.handle? value = some (.dict entries) ∧
    s.classOf? value = some Builtin.dict.classId ∧ entries.Aligned ∧ entries.keys = keys ∧
    ∀ entry ∈ entries.slots, Nat.lt entry.value.why s.graph.size

/-- A value stays a dictionary with these keys as long as no object gets another state. -/
lemma stays_dictOf (keys : List Key) : Stays (DictOf keys) := by
  rintro s s' value written alters ⟨entries, found, ofClass, aligned, are, recorded⟩
  exact ⟨entries, alters.handle? (fun _ _ => id) found, alters.classOf? ofClass, aligned, are,
    fun entry mem => Nat.lt_of_lt_of_le (recorded entry mem) alters.graph⟩

/-- By the name of the built-in class, an empty dictionary is made. -/
lemma Apt.newDict_evaluates (h : s.Apt) (names : s.Names .dict) (steps : Nat) (loc : Location) :
    s.Evaluates (steps + 1) (.new loc "Dict" []) (DictOf []) := by
  intro why recorded
  have makes : Native.construct .dict [] = Action.ofExcept (.ok (.dict {})) := rfl
  have known : s.graph.Knows (why :: reasons []) := List.forall_mem_singleton.2 recorded
  have done : evalArgs (.within steps) why [] s = .done [] s := rfl
  refine (h.evalNew_gives names done known makes rfl).mono ?_
  rintro value s' ⟨found, ofClass⟩
  exact ⟨{}, found, ofClass, Ledger.aligned_empty, rfl, List.forall_mem_nil _⟩

/-- Whether a key is there is a new truth value. -/
lemma Works.containsKey_gives {entries : Ledger Key Entry} {info : Justified} (works : s.Works)
    (names : s.Names .bool) (recorded : Nat.lt why s.graph.size) (aligned : entries.Aligned)
    (known : ∀ entry ∈ entries.slots, Nat.lt entry.value.why s.graph.size) (i : ScopeId)
    (inner : Inner) :
    s.Gives (Is (Handle.truth (decide (s.key info.value ∈ entries.keys))))
      (Native.containsKey inner i entries why info s) := by
  obtain ⟨shown, renders⟩ :
      ∃ shown, Action.render (ε := NativeFault) info.value s = .done shown s := ⟨_, rfl⟩
  obtain ⟨dict, describes⟩ :
      ∃ dict, Action.describeScope (ε := NativeFault) i s = .done dict s := ⟨_, rfl⟩
  have asks : (Action.ask (·.key info.value) : Native Key) s = .done (s.key info.value) s := rfl
  have made (truth : Bool) {supporters : List ReasonId} (supported : s.graph.Knows supporters)
      (message : String) := works.made_gives names (.bool truth) (.truth truth) (fun _ => rfl)
    (fun _ => rfl) supported recorded message inner
  rw [← aligned.isSome_get?, Native.containsKey, Action.bind_done renders,
    Action.bind_done describes, Action.bind_done asks]
  cases found : entries.get? (s.key info.value) with
  | none => exact made false (List.forall_mem_singleton.2 recorded) _
  | some entry =>
    obtain ⟨key, value⟩ := entry
    have supported : s.graph.Knows [why, value.why] :=
      List.forall_mem_cons.2
        ⟨recorded, List.forall_mem_singleton.2 (known _ (Ledger.mem_of_get? found))⟩
    exact made true supported _

/-- A text is the key that it is. -/
lemma Is.asKey {content : String} {value : Value} (is : Is (Handle.text content) value s) :
    s.key value = .text content := by
  obtain ⟨stateWhy, found, -⟩ := is
  have text : s.textOf? value = some (content, stateWhy) := by
    simp only [textOf?, found]
  exact key_of_text text

/-- A dictionary is asked for a key. -/
lemma Apt.containsKey_evaluates (h : s.Apt) (names : s.Names .bool) (room : s.calls.isFull = false)
    (dict : s.Evaluates (steps + 2) object (DictOf keys)) (argument : s.Yields (steps + 2) arg P)
    (stays : Stays P) (isKey : ∀ value s', P value s' → s'.key value = key) (loc : Location) :
    s.Evaluates (steps + 3) (.methodCall loc object "containsKey" [arg])
      (Is (Handle.truth (decide (key ∈ keys)))) := by
  intro why recorded
  obtain ⟨i, w, now, given⟩ := dict why recorded
  obtain ⟨entries, found, ofClass, aligned, rfl, known⟩ := given.holds
  have declared : ("containsKey", ["key"]) ∈ Builtin.dict.methods := by decide
  refine given.methodCall_one loc h recorded room declared found ofClass argument stays
    (stays_is _) ?_
  intro t history info adds holds supported
  have all := given.adds.trans adds
  rw [← isKey _ _ holds]
  exact (all.works h.toWorks).containsKey_gives (all.names h.toWorks names)
    (supported _ List.mem_cons_self) aligned
    (fun entry mem => Nat.lt_of_lt_of_le (known entry mem) adds.graph) i _

/-- A dictionary gets a value for a key. -/
lemma DictOf.put {info other : Justified} (dict : DictOf keys (.object i) t)
    (known : t.graph.Knows [why, info.why, other.why]) :
    ∃ entries new given t', t.handle? (.object i) = some (.dict entries) ∧ t.Notes t' ∧
      Nat.lt given t'.graph.size ∧
      Native.put i entries why info other t =
        .done (.none given) { t' with scopes := t.scopes.restate i new } ∧
      DictOf (if t.key info.value ∈ keys then keys else keys ++ [t.key info.value]) (.object i)
        { t' with scopes := t.scopes.restate i new } := by
  obtain ⟨entries, found, ofClass, aligned, rfl, recorded⟩ := dict
  obtain ⟨stored, given, t', notes, fresh, recordedGiven, done⟩ := put_done i entries known
  refine ⟨entries, _, given, t', found, notes, recordedGiven, done, _,
    (handle?_restate found rfl _).trans (if_pos rfl), (classOf?_restate rfl _).trans ofClass,
    aligned.put _ _, ?_, fun entry mem => ?_⟩
  · rw [Ledger.keys_put, Assoc.contains_eq, ← Ledger.keys]
    simp only [decide_eq_true_eq]
  · obtain rfl | old := Ledger.mem_put mem
    · exact fresh
    · exact Nat.lt_of_lt_of_le (recorded entry old) notes.graph

/-- Objects of other built-in classes than this one get other states. -/
def SparesKind (s : Session) (restated : ScopeId → Prop) (builtin : Builtin) : Prop :=
  ∀ i, restated i → ∃ handle, s.handle? (.object i) = some handle ∧ handle.builtin ≠ builtin

section

variable {written : Places} {restated : ScopeId → Prop}

/-- An object with a state of the spared class is none of those that get other states. -/
lemma SparesKind.not {value : Value} {handle : Handle} (kinds : s.SparesKind restated builtin)
    (state : s.handle? value = some handle) (is : handle.builtin = builtin) (i : ScopeId)
    (same : value = .object i) : ¬ restated i := by
  intro changed
  obtain ⟨other, found, ne⟩ := kinds i changed
  rw [same, found, Option.some.injEq] at state
  exact ne (state ▸ is)

/-- An object of the spared class stays what it is. -/
lemma Is.spared {state : ReasonId → Handle} {value : Value} (is : Is state value s)
    (alters : s.Alters written restated s') (kinds : s.SparesKind restated builtin)
    (ofClass : ∀ why, (state why).builtin = builtin) : Is state value s' := by
  obtain ⟨stateWhy, found, -⟩ := id is
  exact is.alters alters (kinds.not found (ofClass _))

/-- A list stays one with these items if lists are spared, and the class of the items is. -/
lemma ListOf.spared {value : Value} (lists : ListOf state xs value s)
    (alters : s.Alters written restated s') (spares : s.SparesKind restated .list)
    (kinds : s.SparesKind restated builtin) (ofClass : ∀ x why, (state x why).builtin = builtin) :
    ListOf state xs value s' := by
  obtain ⟨items, found, isList, known, are⟩ := lists
  exact ⟨items, alters.handle? (spares.not found rfl) found, alters.classOf? isList,
    alters.knows known, are.imp fun _ x is => is.spared alters kinds (ofClass x)⟩

/-- A dictionary stays one with these keys if dictionaries are spared. -/
lemma DictOf.spared {value : Value} (dict : DictOf keys value s)
    (alters : s.Alters written restated s') (spares : s.SparesKind restated .dict) :
    DictOf keys value s' := by
  obtain ⟨entries, found, isDict, aligned, are, recorded⟩ := dict
  exact ⟨entries, alters.handle? (spares.not found rfl) found, alters.classOf? isDict, aligned, are,
    fun entry mem => Nat.lt_of_lt_of_le (recorded entry mem) alters.graph⟩

/-- A dictionary is of no other built-in class. -/
lemma DictOf.spares (dict : DictOf keys (.object i) s) (other : builtin ≠ .dict) :
    s.SparesKind (· = i) builtin := by
  obtain ⟨entries, found, -⟩ := dict
  rintro j rfl
  exact ⟨.dict entries, found, other.symm⟩

/-- A list is of no other built-in class. -/
lemma ListOf.spares (lists : ListOf state xs (.object i) s) (other : builtin ≠ .list) :
    s.SparesKind (· = i) builtin := by
  obtain ⟨items, found, -⟩ := lists
  rintro j rfl
  exact ⟨.list items, found, other.symm⟩

/-- A class is spared by two changes together if each of them spares it. -/
lemma SparesKind.or {more : ScopeId → Prop} (h : s.SparesKind restated builtin)
    (h' : s.SparesKind more builtin) : s.SparesKind (fun i => restated i ∨ more i) builtin :=
  fun i changed => changed.elim (h i) (h' i)

end

/-! ## Changes -/

/-- The outcome is None. The object has got another state, so that `P` holds of it; apart from that,
only reasons and other objects have been made. -/
def Restates (s : Session) (i : ScopeId) (P : Value → Session → Prop)
    (o : Outcome Failure Justified) : Prop :=
  ∃ why s', o = .done (.none why) s' ∧ s.Alters (fun _ _ => False) (· = i) s' ∧ s.Quiet s' ∧
    P (.object i) s'

/-- A call on an object of a built-in class restates the object as the method does, once the
arguments have been evaluated. -/
lemma GivenAs.methodCall_restates {method : String} {args : List Expr} {params : List String}
    {handle : Handle} {A : List Value → Session → Prop} (loc : Location) (apt : s.Apt)
    (recorded : Nat.lt why s.graph.size) (room : s.calls.isFull = false)
    {w : ReasonId} (given : s.GivenAs P (Because.eval (steps + 2) object why s) i w now)
    (declared : (method, params) ∈ builtin.methods)
    (state : now.handle? (.object i) = some handle)
    (ofClass : now.classOf? (.object i) = some builtin.classId)
    (counts : args.length = params.length)
    (arguments : ∀ s1, now.Notes s1 → s1.GivesAll A (evalArgs (.within (steps + 2)) why args s1))
    (stays : Stays Q)
    (serves : ∀ {given s2 t history infos}, now.Adds s2 → A (given.map Justified.value) s2 →
      s2.Handed given t history infos → ∃ new why' t', t.Notes t' ∧ Nat.lt why' t'.graph.size ∧
        Native.invoke (.within steps) i handle method history infos t =
          .done (.none why') { t' with scopes := t.scopes.restate i new } ∧
        Q (.object i) { t' with scopes := t.scopes.restate i new }) :
    s.Restates i Q (Because.eval (steps + 3) (.methodCall loc object method args) why s) := by
  obtain ⟨infos, s2, t, history, infos', adds2, quiet2, holds, handed, concludes⟩ :=
    given.methodCall_concludes loc apt recorded room declared state ofClass counts arguments
  obtain ⟨new, why', t1, notes1, fresh1, done, becomes⟩ := serves adds2 holds handed
  let t2 : Session := { t1 with scopes := t.scopes.restate i new }
  have quiet1 : t.Quiet t2 := by
    have same := Quiet.of_notes notes1
    exact ⟨⟨same.entered, same.calls⟩, same.console⟩
  obtain ⟨w', s', ends, notes, -⟩ := concludes _ why' t2 done quiet1.toSameStacks notes1.graph
    fresh1 (.inr rfl)
  have before := (given.adds.trans adds2).trans handed.adds
  have restated : t.Alters (fun _ _ => False) (· = i) t2 := by
    have scopes := notes1.scopes
    have restates := (((Adds.of_notes notes1).alters _ _).trans (.restate (fun _ _ => False) i new))
    rwa [scopes] at restates
  have left : t2.Adds (s.afterCall t2) := { Adds.refl t2 with }
  have later := left.trans (.of_notes notes)
  have quiet : s.Quiet (s.afterCall t2) :=
    ⟨⟨rfl, rfl⟩, quiet1.console.trans (handed.console.trans quiet2.console)⟩
  exact ⟨w', s', ends, ((before.alters _ _).trans restated).trans (later.alters _ _),
    quiet.trans (.of_notes notes), stays.adds later becomes⟩

/-- A list that a variable means gets another object. -/
lemma Apt.append_restates (h : s.Apt) (room : s.calls.isFull = false)
    (means : s.meaning? name = some (.object i)) (list : ListOf state xs (.object i) s)
    (other : ∀ x why, (state x why).builtin ≠ .list)
    (argument : s.Yields (steps + 2) arg (Is (state x))) (loc loc' : Location)
    (recorded : Nat.lt why s.graph.size) :
    s.Restates i (ListOf state (xs ++ [x]))
      (Because.eval (steps + 3) (.methodCall loc (.get loc' name) "append" [arg]) why s) := by
  obtain ⟨j, w, now, given⟩ :=
    h.variable_evaluates means (stays_listOf state xs) list (steps + 1) loc' why recorded
  obtain ⟨same, lists⟩ := given.holds
  cases same
  obtain ⟨items, found, ofClass, -⟩ := id lists
  have declared : ("append", ["item"]) ∈ Builtin.list.methods := by decide
  have arguments (s1 : Session) (notes : now.Notes s1) :
      s1.GivesAll (Single (Is (state x))) (evalArgs (.within (steps + 2)) why [arg] s1) := by
    have adds := given.adds.trans (.of_notes notes)
    exact (argument adds (given.quiet.trans (.of_notes notes)) why
      (Nat.lt_of_lt_of_le recorded adds.graph)).all
  refine given.methodCall_restates loc h recorded room declared found ofClass rfl arguments
    (stays_listOf _ _) ?_
  rintro infos s2 t history infos' adds ⟨value, single, holds⟩ handed
  obtain ⟨argument', rfl, rfl⟩ := List.map_eq_singleton_iff.1 single
  obtain ⟨argGiven, rfl, known⟩ := handed.one
  have later := adds.trans handed.adds
  let item : Justified := ⟨argument'.value, argGiven⟩
  have is : Is (state x) item.value t := (stays_is _).adds handed.adds holds
  obtain ⟨items', new, t', found', notes, done, becomes⟩ :=
    ((stays_listOf state xs).adds later lists).append other is known
  obtain rfl : items = items' :=
    Handle.list.inj (Option.some_inj.1 ((later.handle? found).symm.trans found'))
  refine ⟨new, history, t', notes,
    Nat.lt_of_lt_of_le (known _ List.mem_cons_self) notes.graph, ?_, becomes⟩
  exact Action.bind_done done

/-- A dictionary that a variable means gets a value for a key. -/
lemma Apt.put_restates (h : s.Apt) (room : s.calls.isFull = false)
    (means : s.meaning? name = some (.object i)) (dict : DictOf keys (.object i) s)
    (isFirst : s.Yields (steps + 2) first P) (isSecond : s.Yields (steps + 2) second Q)
    (stays : Stays P) (isKey : ∀ value s', P value s' → s'.key value = key) (loc loc' : Location)
    (recorded : Nat.lt why s.graph.size) :
    s.Restates i (DictOf (if key ∈ keys then keys else keys ++ [key]))
      (Because.eval (steps + 3) (.methodCall loc (.get loc' name) "put" [first, second]) why s) := by
  obtain ⟨j, w, now, given⟩ :=
    h.variable_evaluates means (stays_dictOf keys) dict (steps + 1) loc' why recorded
  obtain ⟨same, holds⟩ := given.holds
  cases same
  obtain ⟨entries, found, ofClass, -⟩ := id holds
  have declared : ("put", ["key", "value"]) ∈ Builtin.dict.methods := by decide
  have arguments (s1 : Session) (notes : now.Notes s1) :
      s1.GivesAll (fun values s' => ∃ x y, values = [x, y] ∧ P x s' ∧ Q y s')
        (evalArgs (.within (steps + 2)) why [first, second] s1) := by
    have adds := given.adds.trans (.of_notes notes)
    exact isFirst.both isSecond stays adds (given.quiet.trans (.of_notes notes))
      (Nat.lt_of_lt_of_le recorded adds.graph)
  refine given.methodCall_restates loc h recorded room declared found ofClass rfl arguments
    (stays_dictOf _) ?_
  rintro infos s2 t history infos' adds ⟨x, y, values, isX, -⟩ handed
  obtain ⟨info, other, rfl, value⟩ : ∃ info other, infos' = [info, other] ∧ info.value = x := by
    have same := handed.values.trans values
    obtain ⟨info, rest, rfl, first, others⟩ := List.map_eq_cons_iff.1 same
    obtain ⟨other, rfl, -⟩ := List.map_eq_singleton_iff.1 others
    exact ⟨info, other, rfl, first⟩
  have later := adds.trans handed.adds
  obtain ⟨entries', new, stored, t', found', notes, fresh, done, becomes⟩ :=
    ((stays_dictOf keys).adds later holds).put handed.known
  obtain rfl : entries = entries' :=
    Handle.dict.inj (Option.some_inj.1 ((later.handle? found).symm.trans found'))
  rw [value, isKey x t (stays.adds handed.adds isX)] at becomes
  exact ⟨new, stored, t', notes, fresh, done, becomes⟩

/-! ## Texts -/

/-- Two texts are put one after the other. -/
lemma Apt.concat_evaluates (h : s.Apt) (names : s.Names .string) (room : s.calls.isFull = false)
    {content other : String} (isFirst : s.Yields (steps + 2) first (Is (Handle.text content)))
    (isSecond : s.Yields (steps + 2) second (Is (Handle.text other))) (loc : Location) :
    s.Evaluates (steps + 3) (.concat loc [first, second]) (Is (Handle.text (content ++ other))) := by
  intro why recorded
  obtain ⟨infos, later, done, adds, quiet, known, x, y, values, isText, isOther⟩ :=
    isFirst.both isSecond (stays_is _) (.refl s) (.refl s) recorded
  have are : List.Forall₂ (fun info x => Is (Handle.text x) info.value later) infos
      [content, other] := by
    have both : List.Forall₂ (fun value x => Is (Handle.text x) value later)
        (infos.map Justified.value) [content, other] := by
      rw [values]
      exact .cons isText (.cons isOther .nil)
    exact List.forall₂_map_left_iff.1 both
  have supported : later.graph.Knows (why :: reasons infos) :=
    List.forall_mem_cons.2 ⟨Nat.lt_of_lt_of_le recorded adds.graph, known⟩
  obtain ⟨i, w, s', given, -⟩ := (adds.works h.toWorks).evalPlus_gives joins_texts
    (adds.names h.toWorks names) (quiet.calls ▸ room) done are supported
    rfl
  exact Gives.after adds quiet ⟨i, w, s', given⟩

end Session

end Because
