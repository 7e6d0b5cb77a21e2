import Because.Proofs.Chronicle.Replay

/-!
# Changes of states

The state of an object changes in few ways: an item is appended to a list or removed from it, a list
is cleared, and a value is put into a dictionary. Each method that changes a state either does so or
fails and leaves everything as it was, and so does a program that fills a list of its own.
-/

namespace Because

/-- The number that a value is as an index, if it is a Num; a Num may have none. -/
def Session.number? (s : Session) (value : Value) : Option (Option Int) :=
  (s.numberOf? value).map Prod.fst

/-- Recording reasons changes no numbers. -/
lemma Session.Notes.number? {s t : Session} (h : s.Notes t) : t.number? = s.number? := by
  funext value
  simp only [Session.number?, numberOf?, h.handle?]

/-- The call of the method changes the state, and makes the new one of the old one. -/
def Handle.Changes (s : Session) (method : String) (args : List Value) (old new : Handle) : Prop :=
  match method, old, args with
  | "append", .list items, [item] => ∃ why, new = .list (items ++ [⟨item, why⟩])
  | "clear", .list _, [] => new = .list []
  | "removeAt", .list items, [index] =>
    ∃ n, s.number? index = some (some n) ∧ 0 ≤ n ∧ n < items.length ∧
      new = .list (items.eraseIdx n.toNat)
  | "put", .dict entries, [key, value] =>
    ∃ keyWhy why, new = .dict (entries.put (s.key key) ⟨⟨key, keyWhy⟩, ⟨value, why⟩⟩)
  | _, _, _ => False

/-! ## Methods that change states -/

section

variable {s t : Session} {inner : Inner} {i : ScopeId} {old new : Handle} {method : String}
  {history : ReasonId} {infos : List Justified} {items : List Justified} {info other : Justified}

/-- An item is added at the end of a list. -/
lemma append_done (i : ScopeId) (items : List Justified)
    (known : t.graph.Knows [history, info.why]) :
    ∃ why t', t.Notes t' ∧ Nat.lt why t'.graph.size ∧ Native.append i items history info t =
      .done () { t' with
        scopes := t.scopes.restate i (.list (items ++ [⟨info.value, why⟩])) } := by
  obtain ⟨shown, shows⟩ :
      ∃ shown, Action.render (ε := NativeFault) info.value t = .done shown t := ⟨_, rfl⟩
  obtain ⟨contents, quotes⟩ : ∃ contents, Native.renderItems items t = .done contents t := ⟨_, rfl⟩
  obtain ⟨t', told, notes, fresh⟩ := Session.conj_done known s!"appended {shown} to {contents}"
  refine ⟨t.graph.size, t', notes, fresh, ?_⟩
  rw [Native.append, Action.bind_done shows, Action.bind_done quotes,
    Action.bind_done (Action.lift_done told), ← notes.scopes]
  rfl

/-- A list is served an item: afterwards its state has the item at its end. -/
lemma append_serves (i : ScopeId) (items : List Justified)
    (known : t.graph.Knows [history, info.why]) :
    ∃ why, t.Serves (· = t.scopes.restate i (.list (items ++ [⟨info.value, why⟩]))) (some .none)
      (Native.invoke inner i (.list items) "append" history [info] t) := by
  obtain ⟨why, t', notes, -, done⟩ := append_done i items known
  have runs : Native.invoke inner i (.list items) "append" history [info] t =
      (Native.append i items history info >>= fun _ => pure (.none history)) t := rfl
  refine ⟨why, ?_⟩
  rw [runs, Action.bind_done done]
  have recorded : Nat.lt history t'.graph.size :=
    Nat.lt_of_lt_of_le (known _ List.mem_cons_self) notes.graph
  exact @Session.Serves.gives _ _ (.none history) _ notes.graph recorded rfl

/-- A list is cleared: afterwards its state has no items. -/
lemma clear_serves (i : ScopeId) (items : List Justified) :
    t.Serves (· = t.scopes.restate i (.list [])) (some .none)
      (Native.invoke inner i (.list items) "clear" history [] t) := by
  have size := Graph.size_push (g := t.graph) .unknown [] none
  have recorded := Nat.lt_of_lt_of_eq (Nat.lt_succ_self _) size.symm
  exact @Session.Serves.gives _ _ (.none t.graph.size) _ (Nat.le.intro size.symm) recorded rfl

/-- A position is denoted by its number, which is from 0 up to and without the length. -/
lemma position?_eq_some {length position : Nat} {index : Int} :
    Native.position? length index = some position ↔
      0 ≤ index ∧ index < length ∧ position = index.toNat := by
  unfold Native.position?
  split
  · rename_i inside
    rw [Option.some.injEq]
    exact ⟨fun same => ⟨inside.1, inside.2, same.symm⟩, fun h => h.2.2.symm⟩
  · rename_i outside
    exact ⟨nofun, fun h => absurd ⟨h.1, h.2.1⟩ outside⟩

/-- A number that is required of a number is got. -/
lemma expectNumber_done {number : Option Int} (is : t.number? info.value = some number)
    (method : String) :
    ∃ why, Native.expectNumber method info t = .done (number, why) t := by
  obtain ⟨⟨_, why⟩, found, rfl⟩ := Option.map_eq_some_iff.1 is
  refine ⟨why, ?_⟩
  simp only [Native.expectNumber, Bind.bind, Action.ask, found]
  rfl

/-- A number that is required of anything else is refused. -/
lemma expectNumber_failed (other : t.number? info.value = none) (method : String) :
    Native.expectNumber method info t = .failed (.wrongType method "Num") t := by
  have none := Option.map_eq_none_iff.1 other
  simp only [Native.expectNumber, Bind.bind, Action.ask, none]
  rfl

/-- The item at an index of the list is removed, and otherwise nothing happens. -/
lemma removeAt_serves (i : ScopeId) (items : List Justified) :
    (∃ n, t.number? info.value = some (some n) ∧ 0 ≤ n ∧ n < items.length ∧
      t.Serves (· = t.scopes.restate i (.list (items.eraseIdx n.toNat))) (some .none)
        (Native.invoke inner i (.list items) "removeAt" history [info] t)) ∨
    (¬ ∃ n, t.number? info.value = some (some n) ∧ 0 ≤ n ∧ n < items.length) ∧
      t.Serves (· = t.scopes) none
        (Native.invoke inner i (.list items) "removeAt" history [info] t) := by
  have runs : Native.invoke inner i (.list items) "removeAt" history [info] t =
      Native.removeItem i items info t := rfl
  rw [runs, Native.removeItem]
  cases is : t.number? info.value with
  | none =>
    rw [Action.bind_failed (expectNumber_failed is _)]
    exact .inr ⟨nofun, .fails rfl⟩
  | some number =>
    obtain ⟨why, done⟩ := expectNumber_done is "removeAt"
    rw [Action.bind_done done]
    cases place : number.bind (Native.position? items.length) with
    | none =>
      refine .inr ⟨?_, ?_⟩
      · rintro ⟨n, same, inside⟩
        cases same
        have found := position?_eq_some.2 ⟨inside.1, inside.2, rfl⟩
        exact absurd (place.symm.trans found) nofun
      · simp only [place]
        exact .fails rfl
    | some position =>
      obtain ⟨n, rfl, found⟩ := Option.bind_eq_some_iff.1 place
      obtain ⟨positive, inside, rfl⟩ := position?_eq_some.1 found
      have size := Graph.size_push (g := t.graph) .unknown [] none
      refine .inl ⟨n, rfl, positive, inside, ?_⟩
      simp only [place]
      have recorded := Nat.lt_of_lt_of_eq (Nat.lt_succ_self _) size.symm
      exact @Session.Serves.gives _ _ (.none t.graph.size) _ (Nat.le.intro size.symm) recorded rfl

/-- A value is put into a dictionary. -/
lemma put_done (i : ScopeId) (entries : Ledger Key Entry)
    (known : t.graph.Knows [history, info.why, other.why]) :
    ∃ why given t', t.Notes t' ∧ Nat.lt why t'.graph.size ∧ Nat.lt given t'.graph.size ∧
      Native.put i entries history info other t = .done (.none given) { t' with
        scopes := t.scopes.restate i
          (.dict (entries.put (t.key info.value) ⟨info, ⟨other.value, why⟩⟩)) } := by
  obtain ⟨dict, describes⟩ :
      ∃ dict, Action.describeScope (ε := NativeFault) i t = .done dict t := ⟨_, rfl⟩
  obtain ⟨key, keyShown⟩ :
      ∃ key, Action.render (ε := NativeFault) info.value t = .done key t := ⟨_, rfl⟩
  obtain ⟨value, valueShown⟩ :
      ∃ value, Action.render (ε := NativeFault) other.value t = .done value t := ⟨_, rfl⟩
  obtain ⟨t1, told, notes, fresh⟩ := Session.conj_done known s!"called {dict}[{key}] = {value}"
  let t2 : Session := { t1 with graph := t1.graph.push .unknown [] none }
  have given : t1.Notes t2 := .leaf trivial
  have size := Graph.size_push (g := t1.graph) .unknown [] none
  have sameKey : t1.key info.value = t.key info.value := by
    rw [notes.same]
    rfl
  refine ⟨t.graph.size, t1.graph.size, t2, notes.trans given,
    Nat.lt_of_lt_of_le fresh given.graph, Nat.lt_of_lt_of_eq (Nat.lt_succ_self _) size.symm, ?_⟩
  rw [Native.put, Action.bind_done describes, Action.bind_done keyShown,
    Action.bind_done valueShown, Action.bind_done (Action.lift_done told), ← sameKey,
    ← notes.scopes]
  rfl

/-- A dictionary is served an entry: afterwards its state has it where its key stands, or else at
its end. -/
lemma put_serves (inner : Inner) (i : ScopeId) (entries : Ledger Key Entry)
    (known : t.graph.Knows [history, info.why, other.why]) :
    ∃ why, t.Serves (· = t.scopes.restate i
        (.dict (entries.put (t.key info.value) ⟨info, ⟨other.value, why⟩⟩))) (some .none)
      (Native.invoke inner i (.dict entries) "put" history [info, other] t) := by
  obtain ⟨why, given, t', notes, -, recorded, done⟩ := put_done i entries known
  have runs : Native.invoke inner i (.dict entries) "put" history [info, other] t =
      Native.put i entries history info other t := rfl
  refine ⟨why, ?_⟩
  rw [runs, done]
  exact @Session.Serves.gives _ _ (.none given) _ notes.graph recorded rfl

/-- There are four methods that change a state. -/
lemma mem_mutators : method ∈ mutators ↔
    method = "append" ∨ method = "clear" ∨ method = "removeAt" ∨ method = "put" := by
  simp only [mutators, List.mem_cons, List.not_mem_nil, or_false]

/-- A method that changes states changes the state that it is handed over to, or it fails. -/
lemma mutator_serves (inner : Inner) (changes : method ∈ mutators) (i : ScopeId) (old : Handle)
    (known : t.graph.Knows (history :: reasons infos)) :
    t.Serves (fun scopes => ∃ new, Handle.Changes t method (infos.map Justified.value) old new ∧
        scopes = t.scopes.restate i new) (some .none)
      (Native.invoke inner i old method history infos t) ∨
    (∀ new, ¬ Handle.Changes t method (infos.map Justified.value) old new) ∧
      t.Serves (· = t.scopes) none (Native.invoke inner i old method history infos t) := by
  obtain rfl | rfl | rfl | rfl := mem_mutators.1 changes
  · match old, infos with
    | .list items, [info] =>
      obtain ⟨why, serves⟩ := append_serves i items known
      exact .inl (serves.mono fun _ same => ⟨_, ⟨why, rfl⟩, same⟩)
    | .list _, [] | .list _, _ :: _ :: _ | .text .., _ | .dict _, _ | .truth .., _
    | .number .., _ => exact .inr ⟨fun _ => id, .fails rfl⟩
  · match old, infos with
    | .list items, [] => exact .inl ((clear_serves i items).mono fun _ same => ⟨_, rfl, same⟩)
    | .list _, _ :: _ | .text .., _ | .dict _, _ | .truth .., _ | .number .., _ =>
      exact .inr ⟨fun _ => id, .fails rfl⟩
  · match old, infos with
    | .list items, [info] =>
      obtain ⟨n, is, positive, inside, serves⟩ | ⟨none, serves⟩ := removeAt_serves i items
      · exact .inl (serves.mono fun _ same => ⟨_, ⟨n, is, positive, inside, rfl⟩, same⟩)
      · refine .inr ⟨?_, serves⟩
        rintro _ ⟨n, is, positive, inside, -⟩
        exact none ⟨n, is, positive, inside⟩
    | .list _, [] | .list _, _ :: _ :: _ | .text .., _ | .dict _, _ | .truth .., _
    | .number .., _ => exact .inr ⟨fun _ => id, .fails rfl⟩
  · match old, infos with
    | .dict entries, [info, other] =>
      obtain ⟨why, serves⟩ := put_serves inner i entries known
      exact .inl (serves.mono fun _ same => ⟨_, ⟨info.why, why, rfl⟩, same⟩)
    | .dict _, [] | .dict _, [_] | .dict _, _ :: _ :: _ :: _ | .text .., _ | .list _, _
    | .truth .., _ | .number .., _ => exact .inr ⟨fun _ => id, .fails rfl⟩

end

/-! ## Events that change states -/

/-- If the event is a moment of a run, the session is sound, and what is in flight lies in it. -/
def Event.Sound : Event → Prop
  | .moment current now => now.Sound ∧ current.In now.census
  | .filled .. => True

/-- What is called at the event changes the state of the object, and makes the new one of the old
one. -/
def Event.Changes (e : Event) (i : ScopeId) (old new : Handle) : Prop :=
  ∃ method args, e.call? = some ⟨.object i, method, args⟩ ∧
    Handle.Changes e.now method args old new

section

variable {s t : Session} {old new : Handle} {method : String} {args : List Value} {e : Event}

/-- Only those methods change a state. -/
lemma Handle.Changes.mutates (changes : Handle.Changes s method args old new) :
    method ∈ mutators := by
  unfold Handle.Changes at changes
  split at changes
  · decide
  · decide
  · decide
  · decide
  · exact changes.elim

/-- What states objects have is all that matters. -/
lemma Handle.changes_congr (same : ∀ value, t.handle? value = s.handle? value) :
    Handle.Changes t method args old new ↔ Handle.Changes s method args old new := by
  have number (value : Value) : t.number? value = s.number? value := by
    simp only [Session.number?, Session.numberOf?, same]
  have key (value : Value) : t.key value = s.key value := by
    simp only [Session.key, same]
  simp only [Handle.Changes, number, key]

/-- A hand-over to a method that changes states changes one, or leaves all scopes as they are. -/
lemma invokeNative_changes (known : s.KnowsVariables) {why : ReasonId}
    (recorded : Nat.lt why s.graph.size) (changes : method ∈ mutators) (params : List String)
    (loc : Location) (inner : Inner) :
    ∃ s', (invokeNative inner method params loc why s).session? = some s' ∧
      ((∃ i old args new, s.call? method params = some ⟨.object i, method, args⟩ ∧
          s.handle? (.object i) = some old ∧ Handle.Changes s method args old new ∧
          s'.scopes = s.scopes.restate i new) ∨
        (∀ i old args new, s.call? method params = some ⟨.object i, method, args⟩ →
          s.handle? (.object i) = some old → ¬ Handle.Changes s method args old new) ∧
          s'.scopes = s.scopes) := by
  obtain ⟨this, infos, history, object, shown, t, notes, made, known', ends⟩ |
      ⟨failure, t, notes, none, fails⟩ := invokeNative_opens known recorded method params loc
  · rw [ends]
    have receives {i args} (called : s.call? method params = some ⟨.object i, method, args⟩) :
        this.value = .object i ∧ infos.map Justified.value = args := by
      rw [made, Option.some.injEq, Call.mk.injEq] at called
      exact ⟨called.1, called.2.2⟩
    obtain ⟨i, old, is, state, runs⟩ | ⟨other, failure, runs⟩ := dispatch_cases inner this.value
      (s.handle? this.value) method object shown loc why history infos
    · rw [runs]
      rw [is] at state made
      have supported : t.graph.Knows [history, why] :=
        List.forall_mem_cons.2 ⟨known' _ List.mem_cons_self,
          List.forall_mem_singleton.2 (Nat.lt_of_lt_of_le recorded notes.graph)⟩
      obtain serves | ⟨none, serves⟩ := mutator_serves inner changes i old known'
      · obtain ⟨s', left, new, changed, scopes⟩ := (handOver_answers supported serves).leaves
        rw [Handle.changes_congr notes.handle?] at changed
        rw [notes.scopes] at scopes
        exact ⟨s', left, .inl ⟨i, old, _, new, made, state, changed, scopes⟩⟩
      · obtain ⟨s', left, scopes⟩ := (handOver_answers supported serves).leaves
        refine ⟨s', left, .inr ⟨?_, scopes.trans notes.scopes⟩⟩
        intro j old' args new called state' changed
        obtain ⟨same, rfl⟩ := receives called
        cases is.symm.trans same
        cases state.symm.trans state'
        exact none new ((Handle.changes_congr notes.handle?).2 changed)
    · rw [runs]
      refine ⟨t, rfl, .inr ⟨fun i old args new called state => ?_, notes.scopes⟩⟩
      have is := (receives called).1
      exact absurd state (is ▸ other i old is)
  · rw [fails]
    refine ⟨t, rfl, .inr ⟨fun i old args new called => ?_, notes.scopes⟩⟩
    rw [none] at called
    cases called

/-- What follows the hand-over to a method that changes states is what the hand-over leaves. -/
lemma Event.after_mutates {params : List String} {loc : Location} {why : ReasonId}
    (changes : method ∈ mutators)
    (left : (invokeNative .spent method params loc why s).session? = some t) :
    (Event.moment (.executing (.invokeNative loc method params) why) s).after = t := by
  rw [after, if_pos changes, left, Option.getD_some]

/-- An event changes the state of one object, or leaves all scopes as they are. -/
theorem Event.changes_or_keeps (sound : e.Sound) :
    (∃ i old new, e.now.handle? (.object i) = some old ∧ e.Changes i old new ∧
      e.after.scopes = e.now.scopes.restate i new) ∨
    (∀ i old new, e.now.handle? (.object i) = some old → ¬ e.Changes i old new) ∧
      e.after.scopes = e.now.scopes := by
  have quiet (calls : ∀ call, e.call? = some call → call.method ∉ mutators)
      (same : e.after = e.now) :
      (∀ i old new, e.now.handle? (.object i) = some old → ¬ e.Changes i old new) ∧
        e.after.scopes = e.now.scopes := by
    refine ⟨?_, congrArg Session.scopes same⟩
    rintro i old new - ⟨method, args, called, changes⟩
    exact calls _ called changes.mutates
  match e, sound with
  | .filled list items item now holds, _ =>
    exact .inl ⟨list, _, _, holds, ⟨"append", [item], rfl, now.graph.size, rfl⟩, rfl⟩
  | .moment current now, ⟨sound, known⟩ =>
    cases current with
    | executing stmt why =>
      cases stmt with
      | invokeNative loc method params =>
        by_cases changes : method ∈ mutators
        · obtain ⟨s', left, cases⟩ :=
            invokeNative_changes sound.knowsVariables known changes params loc .spent
          rw [after_mutates changes left]
          obtain ⟨i, old, args, new, called, state, changed, scopes⟩ | ⟨none, scopes⟩ := cases
          · exact .inl ⟨i, old, new, state, ⟨method, args, called, changed⟩, scopes⟩
          · refine .inr ⟨?_, scopes⟩
            rintro i old new state ⟨_, args, called, changed⟩
            obtain rfl := Session.call?_method called
            exact none i old args new called state changed
        · have other (call : Call) (called : now.call? method params = some call) :
              call.method ∉ mutators := Session.call?_method called ▸ changes
          exact .inr (quiet other (if_neg changes))
      | _ => exact .inr (quiet nofun rfl)
    | _ => exact .inr (quiet nofun rfl)

/-- What is called at an event is a method of an object that is there. -/
lemma Event.receiver_lt (sound : e.Sound) {i : Nat}
    (called : e.call? = some ⟨.object i, method, args⟩) : i < e.now.scopes.size := by
  match e, sound with
  | .filled list items item now holds, _ =>
    cases called
    exact Session.handle?_lt holds
  | .moment current now, ⟨sound, _⟩ =>
    cases current with
    | executing stmt why =>
      cases stmt with
      | invokeNative => exact (sound.call_in called).1.1
      | _ => cases called
    | _ => cases called

/-- How the methods that change states edit what is seen of them is how events do. -/
lemma Event.edits {C : Type} {view : Handle → Option C} {empty : C}
    {edit : Event → ScopeId → C → C} (sound : e.Sound)
    (changed : ∀ i old new, e.Changes i old new → ∀ now, view new = some now →
      ∃ was, view old = some was ∧ now = edit e i was)
    (shown : ∀ i old new, e.Changes i old new → (view old).isSome → (view new).isSome)
    (kept : ∀ i old was, (∀ new, ¬ e.Changes i old new) → view old = some was →
      edit e i was = was)
    (uncalled : ∀ i, (∀ method args, e.call? ≠ some ⟨.object i, method, args⟩) →
      edit e i empty = empty) : e.Edits view empty edit where
  scopes := by
    obtain ⟨i, old, new, -, -, same⟩ | ⟨-, same⟩ := Event.changes_or_keeps sound
    · exact Nat.le_of_eq (same ▸ (Scopes.size_update ..).symm)
    · exact Nat.le_of_eq (congrArg Scopes.size same.symm)
  edits j now found := by
    have keeps (none : ∀ old new, e.now.handle? (.object j) = some old → ¬ e.Changes j old new)
        (found : e.now.seen? view j = some now) :
        ∃ was, e.now.seen? view j = some was ∧ now = edit e j was := by
      obtain ⟨old, state, shows⟩ := Option.bind_eq_some_iff.1 found
      exact ⟨now, found, (kept j old now (fun new => none old new state) shows).symm⟩
    obtain ⟨i, old, new, state, changes, same⟩ | ⟨none, same⟩ := Event.changes_or_keeps sound
    · rw [Session.seen?_restate view state same] at found
      by_cases here : i = j
      · subst here
        rw [if_pos rfl] at found
        obtain ⟨was, shows, edits⟩ := changed i old new changes now found
        exact ⟨was, by rw [Session.seen?, state, Option.bind_some, shows], edits⟩
      · rw [if_neg here] at found
        refine keeps (fun old' new' _ changes' => here ?_) found
        obtain ⟨_, _, called, -⟩ := changes
        obtain ⟨_, _, called', -⟩ := changes'
        have both := called.symm.trans called'
        rw [Option.some.injEq, Call.mk.injEq, Value.object.injEq] at both
        exact both.1
    · rw [Session.seen?_congr view same] at found
      exact keeps (fun old new => none j old new) found
  shows j found := by
    obtain ⟨i, old, new, state, changes, same⟩ | ⟨-, same⟩ := Event.changes_or_keeps sound
    · rw [Session.seen?_restate view state same]
      split
      · rename_i here
        subst here
        rw [Session.seen?, state] at found
        exact shown i old new changes found
      · exact found
    · rwa [Session.seen?_congr view same]
  absent i beyond := uncalled i fun _ _ called =>
    absurd (Event.receiver_lt sound called) (Nat.not_lt_of_le beyond)

end

namespace Session

variable {s : Session} {steps : Nat} {program : Program} {log : List Event}

/-- If a run is sound at every moment, everything that happens in it is. -/
lemma Chronicle.events_sound {α : Type} {action : Inner → Eval α}
    (h : s.Chronicle steps action log)
    (during : s.During steps action fun current now => now.Sound ∧ current.In now.census) :
    ∀ e ∈ log, e.Sound := by
  intro e mem
  cases e with
  | moment current now => exact (h.during _).1 during current now mem
  | filled => trivial

/-- In a sound session, everything that happens is sound. -/
lemma Chronicle.sound (h : s.Chronicle steps (Because.runProgram · program) log) (sound : s.Sound) :
    ∀ e ∈ log, e.Sound :=
  h.events_sound (sound.throughout steps program)

/-- In a sound session the items of an object rest on reasons that have been recorded. -/
lemma Sound.knowsItems (sound : s.Sound) {i : ScopeId} {handle : Handle} {items : List Justified}
    (state : s.handle? (.object i) = some handle) (holds : handle.items? = some items) :
    s.graph.Knows (reasons items) := by
  obtain ⟨tag, tagged, state⟩ := Option.bind_eq_some_iff.1 state
  have known := ((sound.known.scopes i).tag tag tagged).handle handle state
  exact (known.items holds).reasons

end Session

end Because
