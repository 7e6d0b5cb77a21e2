import Because.Program.Build
import Because.Proofs.Chronicle.History
import Because.Proofs.Iteration
import Because.Proofs.Keys
import Because.Proofs.Ledger
import Mathlib.Data.Finset.Card

/-!
# Dictionaries

A dictionary is a map that remembers the order of its keys. What it holds at any time is what has
been put into it: for each class of equal keys there is one entry, with what has been put last, and
the entries stand in the order in which the classes were first put.
-/

namespace Because

/-! ## What dictionaries hold -/

/-- The entries of a dictionary by their keys, and where they stand: what was put last of each. -/
def Handle.entries? : Handle → Option (Ledger Key (Value × Value))
  | .dict entries => some (entries.map fun entry => (entry.key.value, entry.value.value))
  | _ => none

/-- The entries of a dictionary, with their index. -/
def Scopes.dict? (scopes : Scopes) (i : ScopeId) : Option (Ledger Key (Value × Value)) :=
  ((scopes.scopeAt i).tag.bind ObjectTag.handle).bind Handle.entries?

/-- What is put into the dictionary at an event. -/
def Event.put? (i : ScopeId) (e : Event) : Option (Value × Value) :=
  match e.call? with
  | some ⟨.object j, "put", [key, value]⟩ => if j = i then some (key, value) else none
  | _ => none

/-- What an event makes of the entries of a dictionary: what is put has its place by its key. -/
def Event.entering (e : Event) (i : ScopeId) (entries : Ledger Key (Value × Value)) :
    Ledger Key (Value × Value) :=
  match e.put? i with
  | some put => entries.put (e.now.key put.1) put
  | none => entries

section

variable {s : Session} {e : Event} {i : ScopeId} {entries : Ledger Key Entry} {method : String}
  {args : List Value} {old new : Handle} {key value : Value}

/-- What is put at an event is what `put` has been called with on the dictionary. -/
lemma Event.put?_eq_some :
    e.put? i = some (key, value) ↔ e.call? = some ⟨.object i, "put", [key, value]⟩ := by
  constructor
  · intro puts
    unfold put? at puts
    split at puts
    · rename_i called
      split at puts
      · rename_i here
        cases puts
        cases here
        exact called
      · cases puts
    · cases puts
  · intro called
    simp only [put?, called, if_true]

/-- Where a call changes the state of a dictionary, something is put into it. -/
lemma Handle.Changes.puts {now : Ledger Key (Value × Value)}
    (changes : Handle.Changes s method args old new) (shows : new.entries? = some now) :
    ∃ was key value, method = "put" ∧ args = [key, value] ∧ old.entries? = some was ∧
      now = was.put (s.key key) (key, value) := by
  unfold Handle.Changes at changes
  split at changes
  · obtain ⟨_, rfl⟩ := changes
    cases shows
  · cases changes
    cases shows
  · obtain ⟨_, _, _, _, rfl⟩ := changes
    cases shows
  · rename_i entries key value
    obtain ⟨keyWhy, why, rfl⟩ := changes
    cases shows
    exact ⟨_, key, value, rfl, rfl, rfl, (Ledger.put_map ..).symm⟩
  · exact changes.elim

/-- What events make of states is what puts make of entries. -/
lemma Event.entering_edits (sound : e.Sound) : e.Edits Handle.entries? {} Event.entering := by
  refine Event.edits sound ?_ ?_ ?_ fun i uncalled => ?_
  · rintro i old new ⟨method, args, called, changes⟩ now shows
    obtain ⟨was, key, value, rfl, rfl, shows', rfl⟩ := changes.puts shows
    refine ⟨was, shows', ?_⟩
    simp only [entering, put?_eq_some.2 called]
  · rintro i old new ⟨method, args, -, changes⟩ shows
    unfold Handle.Changes at changes
    split at changes
    · cases shows
    · cases shows
    · cases shows
    · obtain ⟨_, _, rfl⟩ := changes
      rfl
    · exact changes.elim
  · intro i old was keeps shows
    unfold entering
    split
    · rename_i put puts
      cases old with
      | dict entries =>
        exact absurd ⟨"put", _, put?_eq_some.1 puts, 0, 0, rfl⟩ (keeps (.dict _))
      | _ => cases shows
    · rfl
  · unfold entering
    split
    · rename_i put puts
      exact absurd (put?_eq_some.1 puts) (uncalled _ _)
    · rfl

/-- What is put has a key that is there. -/
lemma Event.put_in (sound : e.Sound) (puts : e.put? i = some (key, value)) :
    key.In e.now.census := by
  have called := put?_eq_some.1 puts
  match e, sound with
  | .moment current now, ⟨sound, _⟩ =>
    cases current with
    | executing stmt why =>
      cases stmt with
      | invokeNative => exact (sound.call_in called).2 key List.mem_cons_self
      | _ => cases called
    | _ => cases called

end

/-- All that is put into a dictionary, one after the other. -/
def putsInto (i : ScopeId) (log : List Event) : List (Value × Value) := log.filterMap (Event.put? i)

/-- The entries that come of what is put, by the keys that it has in the session. -/
def Session.filed (s : Session) (puts : List (Value × Value)) : Ledger Key (Value × Value) :=
  Ledger.ofPuts (fun put => s.key put.1) puts

/-- Keys are still what they were when something was put. -/
lemma replay_entering {now : Session} {log : List Event} (i : ScopeId)
    (sound : ∀ e ∈ log, e.Sound) (keeps : ∀ e ∈ log, e.now.KeepsKeys now) :
    replay Event.entering i log {} = now.filed (putsInto i log) := by
  unfold Session.filed Ledger.ofPuts replay
  generalize ({} : Ledger Key (Value × Value)) = start
  induction log generalizing start with
  | nil => rfl
  | cons e rest ih =>
    obtain ⟨first, others⟩ := List.forall_mem_cons.1 sound
    obtain ⟨kept, later⟩ := List.forall_mem_cons.1 keeps
    rw [List.foldl_cons, ih others later]
    simp only [putsInto, List.filterMap_cons]
    cases entered : e.put? i with
    | none => simp only [Event.entering, entered]
    | some put =>
      simp only [Event.entering, entered, List.foldl_cons, kept.key (Event.put_in first entered)]

namespace Session

variable {s : Session} {key : Value}

/-- The put that counts for a key: the last one of a key that is the same. -/
def Latest (s : Session) (puts : List (Value × Value)) (key : Value) :
    Option (Value × Value) → Prop
  | some put => ∃ before after, puts = before ++ put :: after ∧ s.SameKey put.1 key ∧
    ∀ later ∈ after, ¬ s.SameKey later.1 key
  | none => ∀ put ∈ puts, ¬ s.SameKey put.1 key

/-- What is filed under a key is the put that counts for it. -/
lemma latest_filed (s : Session) (puts : List (Value × Value)) (key : Value) :
    s.Latest puts key ((s.filed puts).get? (s.key key)) := by
  rw [filed, Ledger.get?_ofPuts]
  cases found : puts.reverse.find? fun put => decide (s.key put.1 = s.key key) with
  | none =>
    intro put mem same
    have differs := List.find?_eq_none.1 found put (List.mem_reverse.2 mem)
    exact differs (decide_eq_true (key_eq_iff.2 same))
  | some put =>
    obtain ⟨same, after, before, split, others⟩ := List.find?_eq_some_iff_append.1 found
    refine ⟨before.reverse, after.reverse, ?_, key_eq_iff.1 (of_decide_eq_true same), ?_⟩
    · rw [← List.reverse_reverse puts, split, List.reverse_append, List.reverse_cons,
        List.append_assoc, List.singleton_append]
    · intro later mem equal
      have differs := others later (List.mem_reverse.1 mem)
      rw [decide_eq_true (key_eq_iff.2 equal)] at differs
      cases differs

/-- There is a put that counts for a key exactly if something was put for an equal key. -/
lemma latest_isSome {puts : List (Value × Value)} {found : Option (Value × Value)}
    (latest : s.Latest puts key found) : found.isSome ↔ ∃ put ∈ puts, s.SameKey put.1 key := by
  cases found with
  | none => exact ⟨nofun, fun ⟨put, mem, same⟩ => absurd same (latest put mem)⟩
  | some put =>
    obtain ⟨before, after, rfl, same, -⟩ := latest
    exact ⟨fun _ => ⟨put, by simp, same⟩, fun _ => rfl⟩

end Session

/-! ## What dictionaries answer -/

/-- The truth value that a value is, if it is a Bool. -/
def Session.truth? (s : Session) (value : Value) : Option Bool :=
  (s.truthOf? value).map Prod.fst

section

variable {t : Session} {inner : Inner} {i : ScopeId} {entries : Ledger Key Entry}
  {info other : Justified} {history : ReasonId} {infos : List Justified}

/-- A dictionary that gets a new state has the entries of this state. -/
lemma Scopes.dict?_restate {new : Handle} (state : t.handle? (.object i) = some (.dict entries)) :
    (t.scopes.restate i new).dict? i = new.entries? := by
  let after : Session := { t with scopes := t.scopes.restate i new }
  have seen : after.seen? Handle.entries? i = _ := Session.seen?_restate _ state rfl i
  rwa [if_pos rfl] at seen

/-- In a sound session the entries of a dictionary rest on reasons that have been recorded. -/
lemma Session.Sound.knowsEntries (sound : t.Sound)
    (state : t.handle? (.object i) = some (.dict entries)) :
    ∀ entry ∈ entries.slots, Nat.lt entry.value.why t.graph.size := by
  obtain ⟨tag, tagged, state⟩ := Option.bind_eq_some_iff.1 state
  have known := ((sound.known.scopes i).tag tag tagged).handle _ state
  exact fun entry mem => (known.slots entry mem).value.why

/-- What is got is the value that is there for the key, or None. -/
lemma getEntry_serves (known : Nat.lt history t.graph.size)
    (recorded : ∀ entry ∈ entries.slots, Nat.lt entry.value.why t.graph.size) :
    t.Serves (· = t.scopes)
      (some (((entries.get? (t.key info.value)).map fun entry => entry.value.value).getD .none))
      (Native.getEntry i entries history info t) := by
  obtain ⟨shown, renders⟩ :
      ∃ shown, Action.render (ε := NativeFault) info.value t = .done shown t := ⟨_, rfl⟩
  obtain ⟨dict, describes⟩ :
      ∃ dict, Action.describeScope (ε := NativeFault) i t = .done dict t := ⟨_, rfl⟩
  have asks : (Action.ask (·.key info.value) : Native Key) t = .done (t.key info.value) t := rfl
  rw [Native.getEntry, Action.bind_done renders, Action.bind_done describes, Action.bind_done asks]
  cases found : entries.get? (t.key info.value) with
  | none =>
    obtain ⟨t', told, notes, fresh⟩ := Session.conj_done
      (List.forall_mem_singleton.2 known : t.graph.Knows [history]) s!"{shown} not found in {dict}"
    dsimp only
    rw [Action.bind_done (Action.lift_done told)]
    exact @Session.Serves.gives _ _ (.none t.graph.size) _ notes.graph fresh notes.scopes
  | some entry =>
    obtain ⟨key, value⟩ := entry
    have supported : t.graph.Knows [history, value.why] :=
      List.forall_mem_cons.2
        ⟨known, List.forall_mem_singleton.2 (recorded _ (Ledger.mem_of_get? found))⟩
    obtain ⟨t', told, notes, fresh⟩ := Session.conj_done supported
      s!"{shown} retrieved from {dict}"
    dsimp only
    rw [Action.bind_done (Action.lift_done told)]
    exact @Session.Serves.gives _ _ ⟨value.value, t.graph.size⟩ _ notes.graph fresh notes.scopes

/-- Whether a key is there is a new truth value, as long as new truth values can be made. -/
lemma containsKey_serves (inOrder : t.InOrder) (denotes : t.Denotes "Bool" .bool)
    (state : t.handle? (.object i) = some (.dict entries)) (known : Nat.lt history t.graph.size)
    (recorded : ∀ entry ∈ entries.slots, Nat.lt entry.value.why t.graph.size) :
    t.Serves
      (fun scopes =>
        ({ t with scopes } : Session).truth? (.object t.scopes.size) =
            some (entries.get? (t.key info.value)).isSome ∧
          scopes.dict? i = t.scopes.dict? i)
      (some (.object t.scopes.size)) (Native.containsKey inner i entries history info t) := by
  obtain ⟨shown, renders⟩ :
      ∃ shown, Action.render (ε := NativeFault) info.value t = .done shown t := ⟨_, rfl⟩
  obtain ⟨dict, describes⟩ :
      ∃ dict, Action.describeScope (ε := NativeFault) i t = .done dict t := ⟨_, rfl⟩
  have asks : (Action.ask (·.key info.value) : Native Key) t = .done (t.key info.value) t := rfl
  have made (truth : Bool) {supporters : List ReasonId} (supported : t.graph.Knows supporters)
      (message : String) := Session.made_serves inOrder denotes (.bool truth) (.truth truth)
    (fun _ => rfl) (fun _ => rfl) supported known message inner
  have answer (truth : Bool) (scopes : Scopes)
      (h : (∃ given, ({ t with scopes } : Session).handle? (.object t.scopes.size) =
          some (.truth truth given)) ∧
        ∀ j : Nat, j ≠ t.scopes.size → scopes.scopeAt j = t.scopes.scopeAt j) :
      ({ t with scopes } : Session).truth? (.object t.scopes.size) = some truth ∧
        scopes.dict? i = t.scopes.dict? i := by
    obtain ⟨⟨given, made⟩, others⟩ := h
    refine ⟨?_, ?_⟩
    · simp only [Session.truth?, Session.truthOf?, made]
      rfl
    · rw [Scopes.dict?, others i (Nat.ne_of_lt (Session.handle?_lt state)), ← Scopes.dict?]
  rw [Native.containsKey, Action.bind_done renders, Action.bind_done describes,
    Action.bind_done asks]
  cases found : entries.get? (t.key info.value) with
  | none =>
    exact (made false (List.forall_mem_singleton.2 known) _).mono (answer false)
  | some entry =>
    obtain ⟨key, value⟩ := entry
    have supported : t.graph.Knows [history, value.why] :=
      List.forall_mem_cons.2
        ⟨known, List.forall_mem_singleton.2 (recorded _ (Ledger.mem_of_get? found))⟩
    exact (made true supported _).mono (answer true)

end

namespace Session

variable {s now : Session} {i : ScopeId} {puts : List (Value × Value)} {entries : Ledger Key Entry}

/-- There is one key for each class of equal keys that have been put, in the order in which the
classes were first put. -/
structure Represents (s : Session) (puts : List (Value × Value)) (keys : List Value) : Prop where
  order : keys.map s.key = (puts.map fun put => s.key put.1).eraseDups
  among : ∀ key ∈ keys, ∃ put ∈ puts, put.1 = key
  distinct : keys.Pairwise fun key later => ¬ s.SameKey key later
  count : keys.length = (puts.map fun put => s.key put.1).toFinset.card

/-- The entries that puts make stand for the classes of equal keys. -/
lemma represents_filed (s : Session) (puts : List (Value × Value)) :
    s.Represents puts ((s.filed puts).slots.map Prod.fst) := by
  have order : ((s.filed puts).slots.map Prod.fst).map s.key =
      (puts.map fun put => s.key put.1).eraseDups := by
    rw [List.map_map, ← Ledger.keys_ofPuts]
    exact Ledger.slots_ofPuts puts
  have nodup := nodup_eraseDups (puts.map fun put => s.key put.1)
  refine ⟨order, ?_, ?_, ?_⟩
  · intro key mem
    obtain ⟨put, among, rfl⟩ := List.mem_map.1 mem
    exact ⟨put, Ledger.mem_ofPuts among, rfl⟩
  · rw [← order] at nodup
    exact (List.pairwise_map.1 nodup).imp fun differ same => differ (key_eq_iff.2 same)
  · rw [← List.length_map s.key, order, ← List.toFinset_card_of_nodup nodup]
    congr 1
    ext key
    simp

/-- The index and the entries correspond to each other: the keys of the index are those of the
entries, in their order, and a key has a position in the index if the entry of this very key stands
there. So no key leads beyond the entries, and none is missing. -/
structure Indexed (s : Session) (entries : Ledger Key Entry) : Prop where
  keys : entries.keys = entries.slots.map fun entry => s.key entry.key.value
  positions : ∀ slot position, entries.index.get? slot = some position ↔
    ∃ entry, entries.slots[position]? = some entry ∧ s.key entry.key.value = slot
  distinct : entries.keys.Nodup
  found : ∀ slot, (entries.get? slot).isSome ↔ slot ∈ entries.keys

/-- What puts have made of a dictionary has index and entries in step. -/
lemma indexed_of_filed (same : Handle.entries? (.dict entries) = some (s.filed puts)) :
    s.Indexed entries := by
  have view := Option.some.inj same
  have index : entries.index = (s.filed puts).index := congrArg Ledger.index view
  have slots : entries.slots.map (fun entry => (entry.key.value, entry.value.value)) =
      (s.filed puts).slots := congrArg Ledger.slots view
  have keys : entries.keys = (s.filed puts).keys := congrArg Assoc.keys index
  have aligned : entries.Aligned := by
    have both : (s.filed puts).Aligned := Ledger.aligned_ofPuts puts
    rwa [Ledger.Aligned, ← index, ← slots, List.length_map] at both
  refine ⟨?_, fun slot position => ?_, ?_, fun slot => ?_⟩
  · rw [keys, filed, ← Ledger.slots_ofPuts, ← filed, ← slots, List.map_map]
    rfl
  · rw [index, filed, Ledger.position_ofPuts, ← filed, ← slots, List.getElem?_map]
    simp only [Option.map_eq_some_iff, exists_exists_and_eq_and]
  · rw [keys, filed, Ledger.keys_ofPuts]
    exact nodup_eraseDups _
  · rw [aligned.isSome_get?, decide_eq_true_eq]

/-- An object that is seen to have entries has the state of a dictionary. -/
lemma dict?_eq_some {view : Ledger Key (Value × Value)} (holds : s.scopes.dict? i = some view) :
    ∃ entries, s.handle? (.object i) = some (.dict entries) ∧
      Handle.entries? (.dict entries) = some view := by
  obtain ⟨handle, state, shows⟩ := Option.bind_eq_some_iff.1 holds
  cases handle with
  | dict entries => exact ⟨entries, state, shows⟩
  | _ => cases shows

/-- New reasons leave all keys what they are. -/
lemma Notes.key (h : s.Notes now) : now.key = s.key := by
  rw [h.same]
  rfl

/-- A dictionary serves as the map of what has been put into it. It has an entry for each class of
equal keys, found by its key and where it stands alike; keys compare by what they are, and no
differently by how they are written. What is got is what was put last for the key, or None if there
is no such thing; what is put comes on top of the rest; whether a key is there is whether something
has been put for it, as long as new truth values can be made; and a loop over the dictionary visits
one key of each class, in the order in which the classes were first put. -/
structure Mapping (now : Session) (i : ScopeId) (puts : List (Value × Value)) : Prop where
  entries : now.scopes.dict? i = some (now.filed puts)
  length : (now.filed puts).length = (puts.map fun put => now.key put.1).toFinset.card
  indexed : ∃ entries, now.handle? (.object i) = some (.dict entries) ∧ now.Indexed entries
  keys {a b} : now.key a = now.key b ↔ now.SameKey a b
  written {a b} : now.writtenKey a = now.writtenKey b ↔ now.SameKey a b
  get {params loc key why inner} : Nat.lt why now.graph.size →
    now.call? "get" params = some ⟨.object i, "get", [key]⟩ →
    ∃ found, now.Latest puts key found ∧
      (execStmt inner (.invokeNative loc "get" params) why now).Answers (· = now.scopes)
        (some ((found.map Prod.snd).getD .none))
  put {params loc key value why inner} : Nat.lt why now.graph.size →
    now.call? "put" params = some ⟨.object i, "put", [key, value]⟩ →
    (execStmt inner (.invokeNative loc "put" params) why now).Answers
      (·.dict? i = some (now.filed (puts ++ [(key, value)]))) (some .none)
  containsKey {params loc key why inner} : now.Denotes "Bool" .bool →
    Nat.lt why now.graph.size →
    now.call? "containsKey" params = some ⟨.object i, "containsKey", [key]⟩ →
    ∃ result s' truth, execStmt inner (.invokeNative loc "containsKey" params) why now =
        .done (.returned result) s' ∧
      s'.truth? result.value = some truth ∧
      (truth = true ↔ ∃ put ∈ puts, now.SameKey put.1 key) ∧
      s'.scopes.dict? i = now.scopes.dict? i
  visits {steps loopScope name values body why collectionWhy s} :
    (Inner.within steps).eval values why s = .done ⟨.object i, collectionWhy⟩ now →
    now.graph.Knows [why, collectionWhy] → Nat.lt loopScope now.scopes.size →
    now.scopes.binds loopScope name = false →
    ∃ keys, now.Represents puts keys ∧
      Visits (.within steps) loopScope name body keys (now.beginLoop loopScope name)
        (forCollection (.within steps) loopScope name values body why s)

/-- The entry of a key is what was put last for it. -/
lemma get?_of_filed (same : Handle.entries? (.dict entries) = some (s.filed puts)) (slot : Key) :
    (s.filed puts).get? slot =
      (entries.get? slot).map fun entry => (entry.key.value, entry.value.value) := by
  rw [← Option.some.inj same, Ledger.get?_map]

/-- In a session that is sound and in order, a dictionary that holds what has been put into it
serves as the map of this. -/
lemma InOrder.mapping (inOrder : now.InOrder) (sound : now.Sound)
    (holds : now.scopes.dict? i = some (now.filed puts)) : now.Mapping i puts := by
  obtain ⟨entries, state, shows⟩ := dict?_eq_some holds
  refine
    { entries := holds
      length := (List.length_map Prod.fst).symm.trans (represents_filed now puts).count
      indexed := ⟨entries, state, indexed_of_filed shows⟩
      keys := key_eq_iff
      written := writtenKey_eq_iff
      get := @fun params loc key why inner recorded called =>
        ⟨_, latest_filed now puts key, ?_⟩
      put := @fun params loc key value why inner recorded called => ?_
      containsKey := @fun params loc key why inner denotes recorded called => ?_
      visits := @fun _ _ _ _ _ why collectionWhy _ evaluates known room free =>
        ⟨_, represents_filed now puts, ?_⟩ }
  -- Whatever `get` is called with, its arguments are variables that mean the key.
  · refine invokeNative_answers sound.knowsVariables recorded called state ?_
    rintro t history args notes is known
    obtain ⟨info, rfl, rfl⟩ := List.map_eq_singleton_iff.1 is
    rw [get?_of_filed shows, Option.map_map, ← notes.key, ← notes.scopes]
    refine getEntry_serves (known _ List.mem_cons_self) fun entry mem => ?_
    exact Nat.lt_of_lt_of_le (sound.knowsEntries state entry mem) notes.graph
  · refine invokeNative_answers sound.knowsVariables recorded called state ?_
    rintro t history args notes is known
    match args, is with
    | [info, other], is =>
      cases is
      obtain ⟨why, serves⟩ := put_serves inner i entries known
      refine serves.mono ?_
      rintro _ rfl
      rw [Scopes.dict?_restate ((notes.handle? _).trans state), notes.key, filed,
        Ledger.ofPuts_concat, ← filed, ← Option.some.inj shows]
      exact congrArg some (Ledger.put_map ..).symm
  · have answers : (invokeNative inner "containsKey" params loc why now).Answers
        (fun scopes =>
          ({ now with scopes } : Session).truth? (.object now.scopes.size) =
              some ((now.filed puts).get? (now.key key)).isSome ∧
            scopes.dict? i = now.scopes.dict? i)
        (some (.object now.scopes.size)) := by
      refine invokeNative_answers sound.knowsVariables recorded called state ?_
      intro t history args notes is known
      obtain ⟨info, rfl, rfl⟩ := List.map_eq_singleton_iff.1 is
      rw [get?_of_filed shows, Option.isSome_map, ← notes.key, ← notes.scopes]
      refine containsKey_serves (notes.inOrder inOrder) (notes.denotes denotes)
        ((notes.handle? _).trans state) (known _ List.mem_cons_self) fun entry mem => ?_
      exact Nat.lt_of_lt_of_le (sound.knowsEntries state entry mem) notes.graph
    obtain ⟨result, s', ends, is, truth, keeps⟩ := answers.returns
    exact ⟨result, s', _, ends, is ▸ truth, latest_isSome (latest_filed now puts key), keeps⟩
  · have items : (entries.slots.map Entry.key).map Justified.value =
        (now.filed puts).slots.map Prod.fst := by
      rw [← Option.some.inj shows]
      simp [Ledger.map]
    have supported : now.graph.Knows ([why, collectionWhy] ++ _) :=
      List.forall_mem_append.2 ⟨known, sound.knowsItems state rfl⟩
    rw [← items]
    exact forCollection_visits evaluates state rfl supported room free

/-- All dictionaries serve as the maps of what has been put into them so far. -/
def Maps (now : Session) (log : List Event) : Prop :=
  ∀ i, (now.scopes.dict? i).isSome → now.Mapping i (putsInto i log)

end Session

/-- At every event, and at last, a dictionary holds what has been put into it. -/
lemma Replays.filed {i : ScopeId} {log : List Event} {o : Option Session}
    (replays : Replays Handle.entries? {} Event.entering i log o) (sound : ∀ e ∈ log, e.Sound)
    (keeps : (log.map Event.now ++ o.toList).Pairwise Session.KeepsKeys) :
    (∀ before e after, log = before ++ e :: after → ∀ entries, e.now.scopes.dict? i = some entries →
      entries = e.now.filed (putsInto i before)) ∧
    ∀ left, o = some left → ∀ entries, left.scopes.dict? i = some entries →
      entries = left.filed (putsInto i log) := by
  refine ⟨?_, ?_⟩
  · rintro before e after rfl entries holds
    rw [List.map_append, List.append_assoc] at keeps
    have later := (List.pairwise_append.1 keeps).2.2
    rw [replays.events before e after rfl entries holds]
    refine replay_entering i (List.forall_mem_append.1 sound).1 fun e' mem => ?_
    exact later _ (List.mem_map_of_mem mem) _ List.mem_cons_self
  · rintro left rfl entries holds
    have later := (List.pairwise_append.1 keeps).2.2
    rw [replays.ends left rfl entries holds]
    refine replay_entering i sound fun e mem => ?_
    exact later _ (List.mem_map_of_mem mem) _ List.mem_cons_self

namespace Session

variable {s : Session}

/-- In sessions that can come about, dictionaries are maps that remember the order of their keys: at
all times a dictionary serves as the map of what has been put into it in the history of the session,
whatever else programs do, and all keys stay the keys that they are. -/
theorem Reachable.dictionaries_are_maps (h : s.Reachable) :
    (∃ past, s.History past) ∧
    ∀ past, s.History past → ∀ steps program,
      ∃ log, s.Chronicle steps (Because.runProgram · program) log ∧
        (∀ i, Replays Handle.entries? {} Event.entering i (past ++ log)
          (Because.runProgram (.within steps) program s).session?) ∧
        ((past ++ log).map Event.now ++
          (Because.runProgram (.within steps) program s).session?.toList).Pairwise KeepsKeys ∧
        (∀ before current now after, log = before ++ .moment current now :: after →
          now.Maps (past ++ before)) ∧
        ∀ left, (Because.runProgram (.within steps) program s).session? = some left →
          left.Maps (past ++ log) := by
  refine ⟨h.history, fun past history steps program => ?_⟩
  obtain ⟨log, chronicle⟩ := s.exists_chronicle steps program
  obtain ⟨config, console, story⟩ := history.story
  have sound := List.forall_mem_append.2 ⟨history.sound, chronicle.sound h.sound⟩
  have inOrder := (chronicle.during _).1 (h.throughout steps program fun inOrder _ => inOrder)
  have keeps := (List.pairwise_cons.1 ((story.append chronicle.story).keepsKeys sound)).2
  have replays (i : ScopeId) : Replays Handle.entries? {} Event.entering i (past ++ log)
      (Because.runProgram (.within steps) program s).session? := by
    refine history.replays chronicle (fun _ => Event.entering_edits) ?_ i
    intro handle now shows blank
    cases handle with
    | dict entries =>
      obtain rfl : entries = {} := blank
      exact (Option.some.inj shows).symm
    | _ => cases shows
  refine ⟨log, chronicle, replays, keeps, ?_, ?_⟩
  · rintro before current now after rfl i found
    obtain ⟨entries, holds⟩ := Option.isSome_iff_exists.1 found
    have mem : Event.moment current now ∈ before ++ .moment current now :: after := by simp
    have filed := ((replays i).filed sound keeps).1 (past ++ before) _ after
      (List.append_assoc ..).symm entries holds
    exact (inOrder current now mem).mapping (sound _ (List.mem_append_right _ mem)).1
      (filed ▸ holds)
  · intro left ends i found
    obtain ⟨entries, holds⟩ := Option.isSome_iff_exists.1 found
    have reachable := h.run ⟨steps, program, ends⟩
    have filed := ((replays i).filed sound keeps).2 left ends entries holds
    exact reachable.inOrder.mapping reachable.sound (filed ▸ holds)

/-- Put a text into the dictionary. -/
def putText (key : Expr) (text : String) : Stmt :=
  .effect .builtin (.methodCall .builtin (.get .builtin "d") "put" [key, .const .builtin (.str text)])

/-- A dictionary with two keys. What is put for one of them is put again, for another object that is
an equal key. -/
def lexicon : Program :=
  [.declare .builtin "d" (.new .builtin "Dict" []), putText (.string .builtin "k") "v",
    putText (.num .builtin 7) "w", putText (.string .builtin "k") "x"]

/-- What the dictionary holds at last is what the program has put into it: the key that has been put
again keeps its place. -/
theorem Reachable.dictionaries_are_maps_of_lexicon : (Session.start {} {}).Reachable ∧
    ∃ log left, (Session.start {} {}).Chronicle 7 (Because.runProgram · lexicon) log ∧
      (Because.runProgram (.within 7) lexicon (Session.start {} {})).session? = some left ∧
      left.scopes.dict? 6 = some ⟨[(.text "k", 0), (.number (some 7), 1)],
        [(.object 11, .str "x"), (.object 9, .str "w")]⟩ ∧
      left.filed (putsInto 6 log) = ⟨[(.text "k", 0), (.number (some 7), 1)],
        [(.object 11, .str "x"), (.object 9, .str "w")]⟩ ∧
      left.SameKey (.object 7) (.object 11) ∧ ¬ left.SameKey (.object 7) (.object 9) ∧
      ((putsInto 6 log).map fun put => left.key put.1).toFinset.card = 2 := by
  have reachable := Reachable.start {} {}
  have runs : ((Because.runProgram (.within 7) lexicon (Session.start {} {})).session?.map
      fun s => decide (s.scopes.dict? 6 = some ⟨[(.text "k", 0), (.number (some 7), 1)],
        [(.object 11, .str "x"), (.object 9, .str "w")]⟩ ∧
          s.key (.object 7) = s.key (.object 11) ∧ s.key (.object 7) ≠ s.key (.object 9))) =
        some true := by
    decide +kernel
  obtain ⟨left, ends, facts⟩ := Option.map_eq_some_iff.1 runs
  obtain ⟨holds, same, differ⟩ := of_decide_eq_true facts
  obtain ⟨log, chronicle, -, -, -, serves⟩ :=
    reachable.dictionaries_are_maps.2 [] (.start {} {}) 7 lexicon
  have mapping := serves left ends 6 (holds ▸ rfl)
  have filed := Option.some.inj (mapping.entries.symm.trans holds)
  have count := mapping.length
  rw [filed] at count
  exact ⟨reachable, log, left, chronicle, ends, holds, filed, mapping.keys.1 same,
    fun equal => differ (mapping.keys.2 equal), count.symm⟩

/-- A dictionary with one entry. -/
def glossary : Program :=
  [.declare .builtin "d" (.new .builtin "Dict" []), putText (.const .builtin (.str "k")) "v"]

/-- A program that gives the name of truth values to another class. -/
def unanswerable : Program := glossary ++ [.assign .builtin "Bool" (.get .builtin "List")]

/-- The dictionary is now asked in vain whether it has its key. -/
theorem unanswerable_fails : (Session.start {} {}).Reachable ∧
    ∃ s, (Session.start {} {}).LeadsTo s ∧
      s.scopes.dict? 6 = some ⟨[(.plain (.str "k"), 0)], [(.str "k", .str "v")]⟩ ∧
      (Because.eval 6 (.methodCall .builtin (.get .builtin "d") "containsKey"
        [.const .builtin (.str "k")]) 0 s).failure?.map (·.1.fault) =
          some (.native "Bool" "new" "List expects 0 arguments, got 1") := by
  have runs : ((Because.runProgram (.within 6) unanswerable (Session.start {} {})).session?.map
      fun s => decide (s.scopes.dict? 6 = some ⟨[(.plain (.str "k"), 0)], [(.str "k", .str "v")]⟩ ∧
        (Because.eval 6 (.methodCall .builtin (.get .builtin "d") "containsKey"
          [.const .builtin (.str "k")]) 0 s).failure?.map (·.1.fault) =
            some (.native "Bool" "new" "List expects 0 arguments, got 1"))) = some true := by
    decide +kernel
  obtain ⟨s, left, facts⟩ := Option.map_eq_some_iff.1 runs
  exact ⟨.start {} {}, s, ⟨6, unanswerable, left⟩, of_decide_eq_true facts⟩

end Session

end Because
