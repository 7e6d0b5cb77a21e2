import Because.Program.Build
import Because.Proofs.Chronicle.History
import Because.Proofs.Iteration

/-!
# Lists

A list is a sequence of values, and serves its calls as one: what it holds at any time is what its
calls so far make of what it held at first, an index has to be a number from zero up to below the
length, and a call that fails changes nothing.
-/

namespace Because

/-! ## Sequences -/

namespace Sequence

variable {number? : Value → Option (Option Int)} {items : List Value} {index : Value}
  {length place : Nat} {method : String} {args : List Value}

/-- The place that a value denotes in a sequence of some length: the value has to be a number, and
neither below zero nor past the end. -/
def place? (number? : Value → Option (Option Int)) (length : Nat) (index : Value) : Option Nat := do
  let number ← number? index
  let n ← number
  if 0 ≤ n ∧ n < length then some n.toNat else none

/-- What comes of a call of a method: what it gives, unless it fails, and the sequence that is there
afterwards. -/
def serve (number? : Value → Option (Option Int)) (items : List Value) (method : String)
    (args : List Value) : Option Value × List Value :=
  match method, args with
  | "append", [item] => (some .none, items ++ [item])
  | "clear", [] => (some .none, [])
  | "get", [index] => ((place? number? items.length index).bind (items[·]?), items)
  | "tryGet", [index] =>
    ((number? index).map fun _ =>
      ((place? number? items.length index).bind (items[·]?)).getD .none, items)
  | "removeAt", [index] =>
    match place? number? items.length index with
    | some place => (some .none, items.eraseIdx place)
    | none => (none, items)
  | _, _ => (none, items)

/-- The methods that give what they say of the sequence itself. -/
def methods : List String := ["append", "clear", "get", "tryGet", "removeAt"]

/-- The other methods look at the sequence. -/
lemma reads (served : method ∈ methods) (looks : method ∉ mutators) :
    method = "get" ∨ method = "tryGet" := by
  simp only [methods, mutators, List.mem_cons, List.not_mem_nil, or_false] at *
  tauto

/-- A place is denoted by the number that it has, and by nothing else. -/
lemma place?_eq_some :
    place? number? length index = some place ↔
      number? index = some (some (place : Int)) ∧ place < length := by
  constructor
  · intro found
    obtain ⟨number, is, rest⟩ := Option.bind_eq_some_iff.1 found
    obtain ⟨n, rfl, here⟩ := Option.bind_eq_some_iff.1 rest
    by_cases inside : 0 ≤ n ∧ n < length
    · rw [if_pos inside, Option.some.injEq] at here
      have same : (place : Int) = n := here ▸ Int.toNat_of_nonneg inside.1
      exact ⟨same ▸ is, by omega⟩
    · rw [if_neg inside] at here
      cases here
  · rintro ⟨is, inside⟩
    have within : (0 : Int) ≤ place ∧ (place : Int) < length := by omega
    simp only [place?, is, Option.bind_eq_bind, Option.bind_some, if_pos within, Int.toNat_natCast]

/-- A call that fails changes nothing. -/
lemma serve_fails (fails : (serve number? items method args).1 = none) :
    (serve number? items method args).2 = items := by
  unfold serve at fails ⊢
  split at fails
  · cases fails
  · cases fails
  · rfl
  · rfl
  · split at fails
    · cases fails
    · rfl
  · rfl

end Sequence

/-! ## What lists hold -/

/-- The values in the state of a list. -/
def Handle.values? : Handle → Option (List Value)
  | .list items => some (items.map Justified.value)
  | _ => none

/-- The values in a list. -/
def Scopes.list? (scopes : Scopes) (i : ScopeId) : Option (List Value) :=
  ((scopes.scopeAt i).tag.bind ObjectTag.handle).bind Handle.values?

/-- The values in a list. -/
abbrev Session.list? (s : Session) (i : ScopeId) : Option (List Value) := s.scopes.list? i

/-- What an event makes of the values in a list: what the call that is made makes of them, if the
list is called. -/
def Event.sequence (e : Event) (i : ScopeId) (items : List Value) : List Value :=
  match e.call? with
  | some ⟨.object j, method, args⟩ =>
    if j = i then (Sequence.serve e.now.number? items method args).2 else items
  | _ => items

section

variable {s : Session} {e : Event} {i : ScopeId} {items : List Justified} {method : String}
  {args : List Value} {new : Handle}

/-- A list that gets a new state has the values of this state. -/
lemma Scopes.list?_restate (state : s.handle? (.object i) = some (.list items)) :
    (s.scopes.restate i new).list? i = new.values? := by
  let after : Session := { s with scopes := s.scopes.restate i new }
  have seen : after.seen? Handle.values? i = _ := Session.seen?_restate _ state rfl i
  rwa [if_pos rfl] at seen

/-- An object that is seen to have values is a list of them. -/
lemma Session.list?_eq_some {values : List Value} (holds : s.list? i = some values) :
    ∃ items, s.handle? (.object i) = some (.list items) ∧ values = items.map Justified.value := by
  obtain ⟨handle, state, shows⟩ := Option.bind_eq_some_iff.1 holds
  cases handle with
  | list items =>
    cases shows
    exact ⟨items, state, rfl⟩
  | _ => cases shows

/-- A call of the list makes of its values what the sequence says. -/
lemma Event.sequence_called (called : e.call? = some ⟨.object i, method, args⟩)
    (items : List Value) :
    e.sequence i items = (Sequence.serve e.now.number? items method args).2 := by
  simp only [sequence, called, if_true]

/-- Where the list is not called, its values stay. -/
lemma Event.sequence_uncalled (uncalled : ∀ method args, e.call? ≠ some ⟨.object i, method, args⟩)
    (items : List Value) : e.sequence i items = items := by
  unfold sequence
  split
  · rename_i j method args called
    refine if_neg ?_
    rintro rfl
    exact uncalled method args called
  · rfl

/-- Where a call changes the state of a list, it does what it does to the sequence. -/
lemma Handle.Changes.serve (changes : Handle.Changes s method args (.list items) new) :
    ∃ values, new.values? = some values ∧
      Sequence.serve s.number? (items.map Justified.value) method args = (some .none, values) := by
  unfold Handle.Changes at changes
  split at changes
  · rename_i held item same
    cases same
    obtain ⟨why, rfl⟩ := changes
    refine ⟨_, rfl, ?_⟩
    simp only [Sequence.serve, List.map_append, List.map_cons, List.map_nil]
  · rename_i same
    cases same
    exact ⟨[], changes ▸ rfl, rfl⟩
  · rename_i held index same
    cases same
    obtain ⟨n, is, positive, inside, rfl⟩ := changes
    have place : Sequence.place? s.number? (items.map Justified.value).length index =
        some n.toNat := by
      refine Sequence.place?_eq_some.2 ⟨?_, ?_⟩
      · rw [is, Int.toNat_of_nonneg positive]
      · rw [List.length_map]
        omega
    refine ⟨_, rfl, ?_⟩
    simp only [Sequence.serve, place, List.eraseIdx_map]
  · rename_i same
    cases same
  · exact changes.elim

/-- Only lists become lists. -/
lemma Handle.Changes.of_list {old : Handle} {values : List Value}
    (changes : Handle.Changes s method args old new) (shows : new.values? = some values) :
    ∃ items, old = .list items := by
  unfold Handle.Changes at changes
  split at changes
  · exact ⟨_, rfl⟩
  · exact ⟨_, rfl⟩
  · exact ⟨_, rfl⟩
  · obtain ⟨_, _, rfl⟩ := changes
    cases shows
  · exact changes.elim

/-- Where a call does not change the state of a list, it leaves the sequence alone, and a method
that would change it fails. -/
lemma Handle.serve_of_keeps (keeps : ∀ new, ¬ Handle.Changes s method args (.list items) new) :
    (Sequence.serve s.number? (items.map Justified.value) method args).2 =
        items.map Justified.value ∧
      (method ∈ mutators →
        (Sequence.serve s.number? (items.map Justified.value) method args).1 = none) := by
  unfold Sequence.serve
  split
  · exact absurd ⟨0, rfl⟩ (keeps (.list _))
  · exact absurd rfl (keeps (.list []))
  · exact ⟨rfl, fun changes => absurd changes (by decide)⟩
  · exact ⟨rfl, fun changes => absurd changes (by decide)⟩
  · rename_i index
    split
    · rename_i place found
      obtain ⟨is, inside⟩ := Sequence.place?_eq_some.1 found
      rw [List.length_map] at inside
      exact absurd ⟨place, is, by omega, by omega, rfl⟩ (keeps (.list _))
    · exact ⟨rfl, fun _ => rfl⟩
  · exact ⟨rfl, fun _ => rfl⟩

/-- What events make of states is what calls make of sequences. -/
lemma Event.sequence_edits (sound : e.Sound) : e.Edits Handle.values? [] Event.sequence := by
  refine Event.edits sound ?_ ?_ ?_ fun i uncalled => sequence_uncalled uncalled []
  · rintro i old new ⟨method, args, called, changes⟩ now shows
    obtain ⟨items, rfl⟩ := changes.of_list shows
    refine ⟨_, rfl, ?_⟩
    obtain ⟨values, shows', serves⟩ := changes.serve
    rw [sequence_called called, serves]
    exact Option.some.inj (shows.symm.trans shows')
  · rintro i old new ⟨method, args, -, changes⟩ shows
    cases old with
    | list items =>
      obtain ⟨values, shows', -⟩ := changes.serve
      exact shows' ▸ rfl
    | _ => cases shows
  · intro i old was keeps shows
    cases old with
    | list items =>
      cases shows
      by_cases uncalled : ∀ method args, e.call? ≠ some ⟨.object i, method, args⟩
      · exact sequence_uncalled uncalled _
      · simp only [not_forall, not_not] at uncalled
        obtain ⟨method, args, called⟩ := uncalled
        rw [sequence_called called]
        exact (Handle.serve_of_keeps fun new changes =>
          keeps new ⟨method, args, called, changes⟩).1
    | _ => cases shows

end

/-! ## What lists answer -/

section

variable {t : Session} {inner : Inner} {i : ScopeId} {items infos : List Justified}
  {info : Justified} {history : ReasonId} {method : String}

/-- A number denotes the place that the methods of lists find for it. -/
lemma Sequence.place?_of_number {number : Option Int} {length : Nat}
    (is : t.number? info.value = some number) :
    Sequence.place? t.number? length info.value = number.bind (Native.position? length) := by
  rw [Sequence.place?, is]
  rfl

/-- What is at a place of a list, and of the sequence of its values. -/
lemma item_at (items : List Justified) {place : Nat} (inside : place < items.length) :
    ∃ item ∈ items, items[place]?.getD default = item ∧
      (items.map Justified.value)[place]? = some item.value := by
  refine ⟨items[place], List.getElem_mem inside, ?_, ?_⟩
  · rw [List.getElem?_eq_getElem inside, Option.getD_some]
  · rw [List.getElem?_map, List.getElem?_eq_getElem inside, Option.map_some]

/-- What is got is the item at the place that the index denotes. -/
lemma getItem_serves (i : ScopeId) (known : t.graph.Knows [history, info.why])
    (recorded : t.graph.Knows (reasons items)) :
    t.Serves (· = t.scopes)
      ((Sequence.place? t.number? items.length info.value).bind
        ((items.map Justified.value)[·]?))
      (Native.getItem i items history info t) := by
  rw [Native.getItem]
  cases is : t.number? info.value with
  | none =>
    rw [Action.bind_failed (expectNumber_failed is _), Sequence.place?, is]
    exact .fails rfl
  | some number =>
    obtain ⟨why, done⟩ := expectNumber_done is "get"
    rw [Action.bind_done done, Sequence.place?_of_number is]
    cases found : number.bind (Native.position? items.length) with
    | none =>
      simp only [found]
      exact .fails rfl
    | some place =>
      obtain ⟨n, -, at_⟩ := Option.bind_eq_some_iff.1 found
      obtain ⟨positive, inside, rfl⟩ := position?_eq_some.1 at_
      have lt : n.toNat < items.length := by omega
      obtain ⟨item, among, here, shows⟩ := item_at items lt
      obtain ⟨list, describes⟩ :
          ∃ list, Action.describeScope (ε := NativeFault) i t = .done list t := ⟨_, rfl⟩
      obtain ⟨shown, renders⟩ :
          ∃ shown, Action.render (ε := NativeFault) item.value t = .done shown t := ⟨_, rfl⟩
      have supported : t.graph.Knows [item.why, history, info.why] :=
        List.forall_mem_cons.2 ⟨recorded _ (List.mem_map_of_mem among), known⟩
      obtain ⟨t', told, notes, fresh⟩ := Session.conj_done supported
        s!"returned {list}[{n.toNat}] = {shown}"
      simp only [found, here, Option.bind_some, shows]
      rw [Action.bind_done describes, Action.bind_done renders,
        Action.bind_done (Action.lift_done told)]
      exact @Session.Serves.gives _ _ ⟨item.value, t.graph.size⟩ _ notes.graph fresh notes.scopes

/-- What is sought is the item at a place of the list, or None. -/
lemma soughtItem_done (list : String) (items : List Justified) (number : Option Int)
    (recorded : t.graph.Knows (reasons items)) :
    ∃ item t', Native.soughtItem list items number t = .done item t' ∧ t.Notes t' ∧
      Nat.lt item.why t'.graph.size ∧
      item.value = ((number.bind (Native.position? items.length)).bind
        ((items.map Justified.value)[·]?)).getD .none := by
  have missing (message : String) : ∃ item t',
      (Action.text message >>= fun why => pure (.none why) : Native Justified) t = .done item t' ∧
        t.Notes t' ∧ Nat.lt item.why t'.graph.size ∧ item.value = .none := by
    have size := Graph.size_push (g := t.graph) (.text message) [] none
    refine ⟨.none t.graph.size, _, rfl, .leaf trivial, ?_, rfl⟩
    exact Nat.lt_of_lt_of_eq (Nat.lt_succ_self _) size.symm
  cases number with
  | none => exact missing _
  | some n =>
    cases found : Native.position? items.length n with
    | none =>
      simp only [Native.soughtItem, found, Option.bind_some, Option.bind_none, Option.getD_none]
      exact missing _
    | some place =>
      obtain ⟨positive, inside, rfl⟩ := position?_eq_some.1 found
      have lt : n.toNat < items.length := by omega
      obtain ⟨item, among, here, shows⟩ := item_at items lt
      simp only [Native.soughtItem, found, here, Option.bind_some, shows, Option.getD_some]
      exact ⟨item, t, rfl, .refl t, recorded _ (List.mem_map_of_mem among), rfl⟩

/-- What is sought at an index is given, and every number is an index. -/
lemma tryGetItem_serves (i : ScopeId) (known : t.graph.Knows [history, info.why])
    (recorded : t.graph.Knows (reasons items)) :
    t.Serves (· = t.scopes)
      ((t.number? info.value).map fun _ =>
        ((Sequence.place? t.number? items.length info.value).bind
          ((items.map Justified.value)[·]?)).getD .none)
      (Native.tryGetItem i items history info t) := by
  rw [Native.tryGetItem]
  cases is : t.number? info.value with
  | none =>
    rw [Action.bind_failed (expectNumber_failed is _), Option.map_none]
    exact .fails rfl
  | some number =>
    obtain ⟨why, done⟩ := expectNumber_done is "tryGet"
    obtain ⟨list, describes⟩ :
        ∃ list, Action.describeScope (ε := NativeFault) i t = .done list t := ⟨_, rfl⟩
    obtain ⟨item, t1, seeks, notes1, fresh1, same⟩ := soughtItem_done list items number recorded
    obtain ⟨shown, renders⟩ :
        ∃ shown, Action.render (ε := NativeFault) item.value t1 = .done shown t1 := ⟨_, rfl⟩
    have supported : t1.graph.Knows [item.why, history, info.why] :=
      List.forall_mem_cons.2 ⟨fresh1, notes1.knows known⟩
    obtain ⟨t2, told, notes2, fresh2⟩ := Session.conj_done supported
      s!"returned {list}[{numberText number}] = {shown}"
    rw [Action.bind_done done]
    dsimp only
    rw [Action.bind_done describes, Action.bind_done seeks, Action.bind_done renders,
      Action.bind_done (Action.lift_done told), Option.map_some, Sequence.place?_of_number is,
      ← same]
    have notes := notes1.trans notes2
    exact @Session.Serves.gives _ _ ⟨item.value, t1.graph.size⟩ _ notes.graph fresh2 notes.scopes

/-- A list gives what the sequence of its values gives, and then holds what this makes of them. -/
lemma list_serves (state : t.handle? (.object i) = some (.list items))
    (served : method ∈ Sequence.methods) (known : t.graph.Knows (history :: reasons infos))
    (recorded : t.graph.Knows (reasons items)) :
    t.Serves
      (fun scopes => scopes.list? i = some (Sequence.serve t.number?
        (items.map Justified.value) method (infos.map Justified.value)).2)
      (Sequence.serve t.number? (items.map Justified.value) method
        (infos.map Justified.value)).1
      (Native.invoke inner i (.list items) method history infos t) := by
  have holds : t.list? i = some (items.map Justified.value) :=
    congrArg (·.bind Handle.values?) state
  have keeps (scopes : Scopes) (same : scopes = t.scopes) :
      scopes.list? i = some (items.map Justified.value) := same ▸ holds
  -- The methods that change the list hold and answer by what they leave; the two that only read
  -- leave it as it was.
  by_cases changes : method ∈ mutators
  · obtain serves | ⟨none, serves⟩ := mutator_serves inner changes i (.list items) known
    · obtain ⟨-, -, new, changed, -⟩ := serves.leaves
      obtain ⟨values, -, gives⟩ := changed.serve
      rw [gives]
      refine serves.mono ?_
      rintro _ ⟨new, changed, rfl⟩
      obtain ⟨values', shows, gives'⟩ := changed.serve
      rw [Scopes.list?_restate state, shows]
      exact congrArg (fun answer => some answer.2) (gives'.symm.trans gives)
    · obtain ⟨same, fails⟩ := Handle.serve_of_keeps none
      rw [same, fails changes]
      exact serves.mono keeps
  · obtain rfl | rfl := Sequence.reads served changes
    · match infos with
      | [info] =>
        have serves := getItem_serves i known recorded
        rw [← List.length_map] at serves
        exact serves.mono keeps
      | [] | _ :: _ :: _ => exact .fails holds
    · match infos with
      | [info] =>
        have serves := tryGetItem_serves i known recorded
        rw [← List.length_map] at serves
        exact serves.mono keeps
      | [] | _ :: _ :: _ => exact .fails holds

/-- The length of a list is a new number, as long as new numbers can be made. -/
lemma countItems_serves (inOrder : t.InOrder) (denotes : t.Denotes "Num" .num)
    (state : t.handle? (.object i) = some (.list items)) (known : Nat.lt history t.graph.size)
    (recorded : t.graph.Knows (reasons items)) :
    t.Serves
      (fun scopes =>
        ({ t with scopes } : Session).number? (.object t.scopes.size) =
            some (some (items.length : Int)) ∧
          scopes.list? i = some (items.map Justified.value))
      (some (.object t.scopes.size)) (Native.countItems inner i items history t) := by
  obtain ⟨list, describes⟩ :
      ∃ list, Action.describeScope (ε := NativeFault) i t = .done list t := ⟨_, rfl⟩
  have serves := Session.made_serves inOrder denotes (.int items.length)
    (.number (some (items.length : Int))) (fun _ => rfl) (fun _ => rfl) recorded known
    s!"these {items.length} items were added to {list}" inner
  rw [Native.countItems, Action.bind_done describes]
  refine serves.mono ?_
  rintro scopes ⟨⟨given, made⟩, others⟩
  refine ⟨?_, ?_⟩
  · simp only [Session.number?, Session.numberOf?, made]
    rfl
  · rw [Scopes.list?, others i (Nat.ne_of_lt (Session.handle?_lt state)), ← Scopes.list?]
    exact congrArg (·.bind Handle.values?) state

end

namespace Session

variable {s now : Session} {i : ScopeId} {items : List Value}

/-- A list serves as the sequence of its items: its methods answer as the sequence does and leave
the list with what becomes of it, which is the sequence itself if they fail; a place is denoted by
the number that it has, and by nothing else; the length is that of the sequence as long as new
numbers can be made; and a loop over the list visits the items of the sequence in their order. -/
structure Sequential (now : Session) (i : ScopeId) (items : List Value) : Prop where
  answers {method params loc why args inner} : method ∈ Sequence.methods →
    Nat.lt why now.graph.size → now.call? method params = some ⟨.object i, method, args⟩ →
    (execStmt inner (.invokeNative loc method params) why now).Answers
      (·.list? i = some (Sequence.serve now.number? items method args).2)
      (Sequence.serve now.number? items method args).1
  fails {method args} : (Sequence.serve now.number? items method args).1 = none →
    (Sequence.serve now.number? items method args).2 = items
  places {index place} : Sequence.place? now.number? items.length index = some place ↔
    now.number? index = some (some (place : Int)) ∧ place < items.length
  length {params loc why inner} : now.Denotes "Num" .num → Nat.lt why now.graph.size →
    now.call? "getLength" params = some ⟨.object i, "getLength", []⟩ →
    ∃ result s', execStmt inner (.invokeNative loc "getLength" params) why now =
        .done (.returned result) s' ∧
      s'.number? result.value = some (some (items.length : Int)) ∧ s'.list? i = some items
  visits {steps loopScope name values body why collectionWhy s} :
    (Inner.within steps).eval values why s = .done ⟨.object i, collectionWhy⟩ now →
    now.graph.Knows [why, collectionWhy] → Nat.lt loopScope now.scopes.size →
    now.scopes.binds loopScope name = false →
    Visits (.within steps) loopScope name body items (now.beginLoop loopScope name)
      (forCollection (.within steps) loopScope name values body why s)

/-- In a session that is sound and in order, every list serves as a sequence. -/
lemma InOrder.sequential (inOrder : now.InOrder) (sound : now.Sound)
    (holds : now.list? i = some items) : now.Sequential i items where
  answers served recorded called := by
    obtain ⟨infos, state, rfl⟩ := list?_eq_some holds
    refine invokeNative_answers sound.knowsVariables recorded called state ?_
    rintro t history args notes rfl known
    rw [← notes.number?]
    exact list_serves ((notes.handle? _).trans state) served known
      (notes.knows (sound.knowsItems state rfl))
  fails := Sequence.serve_fails
  places := Sequence.place?_eq_some
  length {params loc why inner} denotes recorded called := by
    obtain ⟨infos, state, rfl⟩ := list?_eq_some holds
    have answers : (invokeNative inner "getLength" params loc why now).Answers
        (fun scopes =>
          ({ now with scopes } : Session).number? (.object now.scopes.size) =
              some (some (infos.length : Int)) ∧
            scopes.list? i = some (infos.map Justified.value))
        (some (.object now.scopes.size)) := by
      refine invokeNative_answers sound.knowsVariables recorded called state ?_
      intro t history args notes none known
      obtain rfl := List.map_eq_nil_iff.1 none
      rw [← notes.scopes]
      exact countItems_serves (notes.inOrder inOrder) (notes.denotes denotes)
        ((notes.handle? _).trans state) (known _ List.mem_cons_self)
        (notes.knows (sound.knowsItems state rfl))
    obtain ⟨result, s', ends, is, number, keeps⟩ := answers.returns
    refine ⟨result, s', ends, ?_, keeps⟩
    rw [is, List.length_map]
    exact number
  visits {_ _ _ _ _ why collectionWhy _} evaluates known room free := by
    obtain ⟨infos, state, rfl⟩ := list?_eq_some holds
    have supported : now.graph.Knows ([why, collectionWhy] ++ reasons infos) :=
      List.forall_mem_append.2 ⟨known, sound.knowsItems state rfl⟩
    exact forCollection_visits evaluates state rfl supported room free

/-- In sessions that can come about, lists are sequences: at all times a list holds what the calls
in the history of the session make of the empty sequence, and serves as the sequence that it holds,
whatever else programs do. -/
theorem Reachable.lists_are_sequences (h : s.Reachable) :
    (∃ past, s.History past) ∧
    ∀ past, s.History past → ∀ steps program,
      ∃ log, s.Chronicle steps (Because.runProgram · program) log ∧
        (∀ i, Replays Handle.values? [] Event.sequence i (past ++ log)
          (Because.runProgram (.within steps) program s).session?) ∧
        ∀ current now, .moment current now ∈ log →
          ∀ i items, now.list? i = some items → now.Sequential i items := by
  refine ⟨h.history, fun past history steps program => ?_⟩
  obtain ⟨log, chronicle⟩ := s.exists_chronicle steps program
  have sound := chronicle.sound h.sound
  have inOrder := (chronicle.during _).1 (h.throughout steps program fun inOrder _ => inOrder)
  refine ⟨log, chronicle, ?_, fun current now mem i items holds => ?_⟩
  · refine history.replays chronicle (fun _ => Event.sequence_edits) fun handle now shows blank => ?_
    cases handle with
    | list items =>
      obtain rfl : items = [] := blank
      exact (Option.some.inj shows).symm
    | _ => cases shows
  · exact (inOrder current now mem).sequential (sound _ mem).1 holds

/-- Call a method of the list. -/
def callList (method : String) (arg : Expr) : Stmt :=
  .effect .builtin (.methodCall .builtin (.get .builtin "xs") method [arg])

/-- A list that gets items, loses one of them and gets another one; at last an item is to be removed
where there is none. -/
def queue : Program :=
  [.declare .builtin "xs" (.new .builtin "List" []),
    callList "append" (.const .builtin (.str "a")), callList "append" (.const .builtin (.str "b")),
    callList "append" (.const .builtin (.str "c")), callList "removeAt" (.num .builtin 1),
    callList "append" (.const .builtin (.str "d")), callList "removeAt" (.num .builtin 3)]

/-- What the list holds at last comes of what the program does, though the program fails. -/
theorem Reachable.lists_are_sequences_of_queue : (Session.start {} {}).Reachable ∧
    ∃ log left failure, (Session.start {} {}).Chronicle 7 (Because.runProgram · queue) log ∧
      Because.runProgram (.within 7) queue (Session.start {} {}) = .failed failure left ∧
      failure.fault = .native "List" "removeAt" "index 3 is out of range for 3 items" ∧
      left.list? 6 = some [.str "a", .str "c", .str "d"] ∧
      replay Event.sequence 6 log [] = [.str "a", .str "c", .str "d"] := by
  have reachable := Reachable.start {} {}
  have runs : ((Because.runProgram (.within 7) queue (Session.start {} {})).failure?.map fun ended =>
      decide (ended.1.fault = .native "List" "removeAt" "index 3 is out of range for 3 items" ∧
        ended.2.list? 6 = some [.str "a", .str "c", .str "d"])) = some true := by
    decide +kernel
  obtain ⟨⟨failure, left⟩, ends, facts⟩ := Option.map_eq_some_iff.1 runs
  obtain ⟨fault, holds⟩ := of_decide_eq_true facts
  have ends := Outcome.eq_failed ends
  obtain ⟨log, chronicle, replays, -⟩ :=
    reachable.lists_are_sequences.2 [] (.start {} {}) 7 queue
  have holding := (replays 6).ends left (congrArg Outcome.session? ends) _ holds
  exact ⟨reachable, log, left, failure, chronicle, ends, fault, holds, holding.symm⟩

/-- A list with one item. -/
def shelf : Program :=
  [.declare .builtin "xs" (.new .builtin "List" []), callList "append" (.const .builtin (.str "a"))]

/-- A program that gives the name of numbers to another class. -/
def uncountable : Program := shelf ++ [.assign .builtin "Num" (.get .builtin "List")]

/-- The length of the list is now asked for in vain. -/
theorem uncountable_fails : (Session.start {} {}).Reachable ∧
    ∃ s, (Session.start {} {}).LeadsTo s ∧ s.list? 6 = some [.str "a"] ∧
      (Because.eval 6 (.methodCall .builtin (.get .builtin "xs") "getLength" []) 0
        s).failure?.map (·.1.fault) =
          some (.native "Num" "new" "List expects 0 arguments, got 1") := by
  have runs : ((Because.runProgram (.within 6) uncountable (Session.start {} {})).session?.map
      fun s => decide (s.list? 6 = some [.str "a"] ∧
        (Because.eval 6 (.methodCall .builtin (.get .builtin "xs") "getLength" []) 0
          s).failure?.map (·.1.fault) =
            some (.native "Num" "new" "List expects 0 arguments, got 1"))) = some true := by
    decide +kernel
  obtain ⟨s, left, facts⟩ := Option.map_eq_some_iff.1 runs
  exact ⟨.start {} {}, s, ⟨6, uncountable, left⟩, of_decide_eq_true facts⟩

end Session

end Because
