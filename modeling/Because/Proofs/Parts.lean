import Because.Proofs.Filling
import Because.Proofs.Lists
import Because.Proofs.Text.Split

/-!
# Splitting loses nothing

The method that splits a text at a separator gives a list of new String objects, which have the
parts of the text as their texts. The length of this list is the number of the parts.
-/

namespace Because

namespace Session

variable {s now : Session} {value : Value} {receiver separator : Justified} {sep content : String}
  {why contentWhy sepWhy : ReasonId} {steps : Nat}

/-- A text rests on a reason that has been recorded. -/
lemma Sound.text_of (h : s.Sound) (holds : s.content? value = some content) :
    ∃ why, s.handle? value = some (.text content why) ∧ Nat.lt why s.graph.size := by
  obtain ⟨⟨_, textWhy⟩, found, rfl⟩ := Option.map_eq_some_iff.1 holds
  rw [textOf?] at found
  split at found
  · rename_i state
    cases found
    exact ⟨textWhy, state, h.handle_in state⟩
  · cases found

/-- Splitting a text gives the list of its parts. -/
lemma Works.splitText_gives (works : s.Works) (strings : s.Names .string) (lists : s.Names .list)
    (isSep : s.handle? separator.value = some (.text sep sepWhy))
    (known : s.graph.Knows [why, contentWhy, sepWhy]) (inner : Inner) :
    s.Gives (ListOf Handle.text (Text.split sep content))
      (Native.splitText inner content contentWhy why separator s) := by
  obtain ⟨list, made, s1, makes, filled⟩ :=
    works.newList_fills lists Handle.text (known _ List.mem_cons_self) inner
  let quoted := ", ".intercalate ((Text.split sep content).map fun part => s!"'{part}'")
  obtain ⟨s2, told, notes, fresh⟩ := conj_done (filled.adds.knows known)
    s!"{content}.split({sep}) = [{quoted}]"
  obtain ⟨s3, appends, filled3, grows⟩ :=
    (filled.notes notes).appendParts works strings fresh inner (Text.split sep content)
  refine ⟨list, s1.graph.size, s3, ?_, filled3.adds, filled3.quiet,
    Nat.lt_of_lt_of_le fresh grows, filled3.lists⟩
  rw [Native.splitText, Action.bind_done (expectText_is isSep _)]
  dsimp only
  rw [Action.bind_done (Action.lift_done makes), Action.bind_done (Action.lift_done told),
    Action.bind_done appends]
  rfl

/-- The length of a list is the number of its items. -/
lemma Works.countItems_gives {items : List Justified} (works : s.Works) (names : s.Names .num)
    (i : ScopeId) (known : s.graph.Knows (why :: reasons items)) (inner : Inner) :
    s.Gives (Is (Handle.number (some items.length)))
      (Native.countItems inner i items why s) := by
  obtain ⟨recorded, supported⟩ := List.forall_mem_cons.1 known
  exact works.made_gives names (.int items.length) (.number (some items.length)) (fun _ => rfl)
    (fun _ => rfl) supported recorded _ inner

/-- What splitting a text at a separator gives: besides this list and the new String objects in it,
only reasons have been made. -/
structure Splits (s : Session) (sep content : String) (list : Justified) (s' : Session) : Prop where
  adds : s.Adds s'
  ofClass : s'.classOf? list.value = some Builtin.list.classId
  parts : ∃ i items parts, list.value = .object i ∧ s'.list? i = some items ∧
    (∀ item ∈ items, s'.classOf? item = some Builtin.string.classId) ∧
    items.map s'.content? = parts.map some ∧ Text.Parts sep content parts ∧
    ∀ {steps why}, s.Names .num → Nat.lt why s'.graph.size →
      ∃ length s'', Because.callMethod (.within (steps + 2)) list "getLength" [] why s' =
        .done length s'' ∧ s''.number? length.value = some (some (parts.length : Int))

/-- Texts are split at separators without loss, as long as there is room for the call. -/
structure SplitsUp (now : Session) : Prop where
  gives {steps : Nat} {why : ReasonId} {receiver separator : Justified} {sep content : String} :
    now.classOf? receiver.value = some Builtin.string.classId →
    now.content? receiver.value = some content → now.content? separator.value = some sep →
    now.Names .string → now.Names .list → now.graph.Knows [why, separator.why] →
    now.calls.isFull = false →
    ∃ list s', Because.callMethod (.within (steps + 2)) receiver "split" [separator] why now =
      .done list s' ∧ now.Splits sep content list s'
  full {steps : Nat} {why : ReasonId} {receiver separator list : Justified} {s' : Session} :
    now.classOf? receiver.value = some Builtin.string.classId → now.calls.isFull = true →
    Because.callMethod (.within steps) receiver "split" [separator] why now ≠ .done list s'

/-- The length of a list of objects is given as a number, as long as numbers can be made. -/
lemma Works.getLength_gives {α : Type} {state : α → ReasonId → Handle} {xs : List α}
    {list : Justified} (works : s.Works) (steps : Nat) (names : s.Names .num)
    (room : s.calls.isFull = false) (lists : ListOf state xs list.value s)
    (recorded : Nat.lt why s.graph.size) :
    s.Gives (Is (Handle.number (some xs.length)))
      (Because.callMethod (.within (steps + 2)) list "getLength" [] why s) := by
  obtain ⟨items, found, ofClass, supported, are⟩ := lists
  have declared : ("getLength", []) ∈ Builtin.list.methods := by decide
  have known : s.graph.Knows (why :: reasons []) := List.forall_mem_singleton.2 recorded
  refine works.callMethod_gives declared ofClass found rfl room known (stays_is _) ?_
  intro i now history infos is handed
  obtain rfl := List.map_eq_nil_iff.1 handed.values
  have counted : now.graph.Knows (history :: reasons items) :=
    List.forall_mem_cons.2 ⟨handed.known _ List.mem_cons_self, handed.adds.knows supported⟩
  rw [← are.length_eq]
  exact (handed.adds.works works).countItems_gives (handed.adds.names works names) i counted _

/-- In a healthy session texts can be split up. -/
lemma Healthy.splits (h : now.Healthy) : now.SplitsUp where
  gives {steps why receiver separator sep content} ofClass holds isSep strings lists known
      room := by
    obtain ⟨textWhy, found, recorded⟩ := h.sound.text_of holds
    obtain ⟨sepWhy, foundSep, recordedSep⟩ := h.sound.text_of isSep
    have declared : ("split", ["separator"]) ∈ Builtin.string.methods := by decide
    obtain ⟨i, w, s', gives⟩ : now.Gives (ListOf Handle.text (Text.split sep content))
        (Because.callMethod (.within (steps + 2)) receiver "split" [separator] why now) := by
      refine h.works.callMethod_gives declared ofClass found rfl room known (stays_listOf _ _) ?_
      intro i t history infos is handed
      obtain ⟨given, rfl, supported⟩ := handed.one
      have supported : t.graph.Knows [history, textWhy, sepWhy] :=
        List.forall_mem_cons.2 ⟨supported _ List.mem_cons_self,
          handed.adds.knows (List.forall_mem_cons.2
            ⟨recorded, List.forall_mem_singleton.2 recordedSep⟩)⟩
      exact (handed.adds.works h.works).splitText_gives (handed.adds.names h.works strings)
        (handed.adds.names h.works lists) (handed.adds.handle? foundSep) supported _
    obtain ⟨items, state, isList, -, are⟩ := gives.holds
    refine ⟨_, s', gives.done, gives.adds, isList, i, items.map Justified.value,
      Text.split sep content, rfl, ?_, ?_, ?_, Text.split_parts sep content, ?_⟩
    · exact congrArg (·.bind Handle.values?) state
    · exact classes_of (fun _ _ => rfl) are
    · rw [List.map_map]
      exact reads_of Is.content are
    · intro steps why names recorded
      let list : Justified := ⟨.object i, w⟩
      have lists : ListOf Handle.text (Text.split sep content) list.value s' := gives.holds
      obtain ⟨object, length, s'', counts⟩ := (gives.adds.works h.works).getLength_gives
        steps (gives.adds.names h.works names) (gives.quiet.calls ▸ room) lists recorded
      exact ⟨_, s'', counts.done, counts.holds.number⟩
  full {steps why receiver separator list s'} ofClass isFull done := by
    have declared : ("split", ["separator"]) ∈ Builtin.string.methods := by decide
    exact h.works.callMethod_full declared ofClass rfl isFull steps list s' done

/-- In sessions that can come about, texts are split without loss, at every moment of every run. -/
theorem Reachable.splits_whole (h : s.Reachable) : s.SplitsUp ∧
    ∀ steps program, s.Throughout steps program fun _ now => now.SplitsUp := by
  refine ⟨h.healthy.splits, fun steps program => ?_⟩
  exact (h.healthy_throughout steps program).mono fun _ _ healthy => healthy.1.splits

/-- A program with a text and a separator. -/
def letters : Program :=
  [.declare .builtin "text" (.new .builtin "String" [.const .builtin (.str "a,,b")]),
    .declare .builtin "comma" (.new .builtin "String" [.const .builtin (.str ",")])]

/-- The text is split at the separator. -/
theorem Reachable.splits_whole_of_letters : ∃ s, (Session.start {} {}).LeadsTo s ∧ s.Reachable ∧
    ∃ list s', Because.callMethod (.within 4) ⟨.object 6, 0⟩ "split" [⟨.object 7, 0⟩] 0 s =
      .done list s' ∧ s.Splits "," "a,,b" list s' := by
  have runs : ((Because.runProgram (.within 4) letters (Session.start {} {})).session?.map fun s =>
      decide (s.classOf? (.object 6) = some Builtin.string.classId ∧
        s.content? (.object 6) = some "a,,b" ∧ s.content? (.object 7) = some "," ∧
        s.Names .string ∧ s.Names .list ∧ 0 < s.graph.size ∧ s.calls.isFull = false)) =
          some true := by
    decide +kernel
  obtain ⟨s, left, facts⟩ := Option.map_eq_some_iff.1 runs
  obtain ⟨ofClass, isText, isSep, strings, lists, recorded, room⟩ := of_decide_eq_true facts
  have leads : (Session.start {} {}).LeadsTo s := ⟨4, letters, left⟩
  have reachable := Reachable.run (.start {} {}) leads
  have known : s.graph.Knows [0, 0] :=
    List.forall_mem_cons.2 ⟨recorded, List.forall_mem_singleton.2 recorded⟩
  exact ⟨s, leads, reachable,
    reachable.splits_whole.1.gives ofClass isText isSep strings lists known room⟩

/-- A program that gives the name of numbers to another class, and asks how many parts there are. -/
def innumerable : Program := letters ++ [.assign .builtin "Num" (.get .builtin "List")]

/-- How many parts the text has, as the program asks. -/
def partsCounted : Expr :=
  .methodCall .builtin
    (.methodCall .builtin (.get .builtin "text") "split" [.get .builtin "comma"]) "getLength" []

/-- The names of texts and lists denote the built-in classes, but the parts are not counted. -/
theorem innumerable_fails : (Session.start {} {}).Reachable ∧
    ∃ s, (Session.start {} {}).LeadsTo s ∧ s.Names .string ∧ s.Names .list ∧
      s.calls.isFull = false ∧
      s.content? (.object 6) = some "a,,b" ∧ s.content? (.object 7) = some "," ∧
      (Because.eval 6 partsCounted 0 s).failure?.map (·.1.fault) =
        some (.native "Num" "new" "List expects 0 arguments, got 1") := by
  have runs : ((Because.runProgram (.within 4) innumerable (Session.start {} {})).session?.map
      fun s => decide (s.Names .string ∧ s.Names .list ∧ s.calls.isFull = false ∧
        s.content? (.object 6) = some "a,,b" ∧ s.content? (.object 7) = some "," ∧
        (Because.eval 6 partsCounted 0 s).failure?.map (·.1.fault) =
          some (.native "Num" "new" "List expects 0 arguments, got 1"))) = some true := by
    decide +kernel
  obtain ⟨s, left, facts⟩ := Option.map_eq_some_iff.1 runs
  exact ⟨.start {} {}, s, ⟨4, innumerable, left⟩, of_decide_eq_true facts⟩

end Session

end Because
