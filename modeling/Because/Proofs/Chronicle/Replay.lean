import Because.Proofs.Handover

/-!
# Replaying chronicles

What an object holds at an event of a chronicle is what comes of replaying the events before it:
each of them makes of the contents what it says, and in between nothing happens to them. An object
that is new has none.
-/

namespace Because

/-! ## New states -/

namespace Session

variable {C : Type} (view : Handle → Option C) {s s' : Session} {i j : ScopeId} {old new : Handle}

/-- What is seen of the state of an object. -/
def seen? (s : Session) (i : ScopeId) : Option C := (s.handle? (.object i)).bind view

/-- Where an object has a state, there is a scope. -/
lemma handle?_lt {i : Nat} (state : s.handle? (.object i) = some old) : i < s.scopes.size := by
  obtain ⟨tag, tagged, -⟩ := Option.bind_eq_some_iff.1 state
  have object : (s.scopes.scopeAt i).tag = some tag := tagged
  exact Comparison.lt_size_of_tag (object ▸ rfl)

/-- An object that had a state has the new one, and the others have theirs. -/
lemma handle?_restate (state : s.handle? (.object i) = some old)
    (same : s'.scopes = s.scopes.restate i new) (j : ScopeId) :
    s'.handle? (.object j) = if i = j then some new else s.handle? (.object j) := by
  have lt : i < s.scopes.size := handle?_lt state
  simp only [handle?, tag?, Value.scope?, Option.bind_some] at state ⊢
  rw [same, Scopes.restate, Scopes.scopeAt_update]
  by_cases here : i = j
  · subst here
    obtain ⟨tag, tagged, -⟩ := Option.bind_eq_some_iff.1 state
    simp only [lt, and_self, if_true, tagged, Option.map_some, Option.bind_some]
  · simp only [here, false_and, if_false]

/-- What is seen of an object that gets a new state is what is seen of this state, and of the others
what was seen before. -/
lemma seen?_restate (state : s.handle? (.object i) = some old)
    (same : s'.scopes = s.scopes.restate i new) (j : ScopeId) :
    s'.seen? view j = if i = j then view new else s.seen? view j := by
  rw [seen?, handle?_restate state same]
  split
  · rfl
  · rfl

/-- What is seen of objects depends on the scopes alone. -/
lemma seen?_congr (same : s'.scopes = s.scopes) (j : ScopeId) :
    s'.seen? view j = s.seen? view j := by
  simp only [seen?, handle?, tag?, same]

end Session

/-! ## Replaying -/

section

variable {C : Type} {view : Handle → Option C} {empty : C} {edit : Event → ScopeId → C → C}

/-- What the event does to the states of objects is what it says. -/
structure Event.Edits (view : Handle → Option C) (empty : C) (edit : Event → ScopeId → C → C)
    (e : Event) : Prop where
  scopes : e.now.scopes.size ≤ e.after.scopes.size
  edits : ∀ i now, e.after.seen? view i = some now →
    ∃ was, e.now.seen? view i = some was ∧ now = edit e i was
  shows : ∀ i, (e.now.seen? view i).isSome → (e.after.seen? view i).isSome
  absent : ∀ i : Nat, e.now.scopes.size ≤ i → edit e i empty = empty

/-- What comes of some contents by what happened. -/
def replay (edit : Event → ScopeId → C → C) (i : ScopeId) (log : List Event) (start : C) : C :=
  log.foldl (fun contents e => edit e i contents) start

/-- The contents of an object are what is given, or it is not there yet and has none. -/
structure Session.Holding (s : Session) (view : Handle → Option C) (empty : C) (i : ScopeId)
    (contents : C) : Prop where
  holds : ∀ now, s.seen? view i = some now → now = contents
  absent : s.scopes.size ≤ i → contents = empty

variable {s s' : Session} {i : ScopeId} {contents : C} {log : List Event} {o : Option Session}

/-- From one event to the next the contents stay what they are. -/
lemma Session.Holding.calm (h : s.Holding view empty i contents) (calm : s.Calm s')
    (blank : ∀ handle now, view handle = some now → handle.Blank → now = empty) :
    s'.Holding view empty i contents where
  holds now found := by
    by_cases old : Nat.lt i s.scopes.size
    · have same : s'.seen? view i = s.seen? view i := by
        rw [seen?, handle?_of_tag (calm.tags i old), ← seen?]
      exact h.holds now (same.symm.trans found)
    · have beyond := Nat.le_of_not_lt old
      obtain ⟨handle, state, shows⟩ := Option.bind_eq_some_iff.1 found
      rw [blank handle now shows (calm.fresh i handle beyond state), h.absent beyond]
  absent beyond := h.absent (Nat.le_trans calm.scopes beyond)

/-- An event makes of the contents what it says. -/
lemma Session.Holding.after {e : Event} (h : e.now.Holding view empty i contents)
    (edits : e.Edits view empty edit) : e.after.Holding view empty i (edit e i contents) where
  holds now found := by
    obtain ⟨was, before, same⟩ := edits.edits i now found
    rw [same, h.holds was before]
  absent beyond := by
    have new := Nat.le_trans edits.scopes beyond
    rw [h.absent new, edits.absent i new]

/-- At every event, and in the session that is left behind, an object holds what comes of replaying
what has happened. -/
lemma Story.holding (story : Story s log o) (edits : ∀ e ∈ log, e.Edits view empty edit)
    (blank : ∀ handle now, view handle = some now → handle.Blank → now = empty)
    (start : s.Holding view empty i contents) :
    (∀ before e after, log = before ++ e :: after →
      e.now.Holding view empty i (replay edit i before contents)) ∧
    ∀ left, o = some left → left.Holding view empty i (replay edit i log contents) := by
  induction story generalizing contents with
  | ends calm =>
    refine ⟨fun before e after split => ?_, ?_⟩
    · cases before <;> cases split
    · rintro left ⟨⟩
      exact start.calm calm blank
  | lost =>
    refine ⟨fun before e after split => ?_, nofun⟩
    cases before <;> cases split
  | @next s e rest o calm _ ih =>
    have here := start.calm calm blank
    obtain ⟨first, others⟩ := List.forall_mem_cons.1 edits
    obtain ⟨events, ends⟩ := ih others (here.after first)
    refine ⟨fun before e' after split => ?_, ends⟩
    cases before with
    | nil =>
      cases split
      exact here
    | cons =>
      cases split
      exact events _ _ _ rfl

/-- What leads from session to session, in between and at the events, leads from each session that a
story tells of to all later ones. -/
lemma Story.pairwise {R : Session → Session → Prop} (story : Story s log o)
    (trans : ∀ {s s' s''}, R s s' → R s' s'' → R s s'') (calm : ∀ {s s'}, s.Calm s' → R s s')
    (events : ∀ e ∈ log, R e.now e.after) : (s :: (log.map Event.now ++ o.toList)).Pairwise R := by
  induction story with
  | ends calms => exact List.pairwise_pair.2 (calm calms)
  | lost => exact List.pairwise_singleton ..
  | next calms story ih =>
    obtain ⟨first, others⟩ := List.forall_mem_cons.1 events
    obtain ⟨after, rest⟩ := List.pairwise_cons.1 (ih others)
    have here := fun later mem => trans first (after later mem)
    refine List.pairwise_cons.2 ⟨?_, List.pairwise_cons.2 ⟨here, rest⟩⟩
    exact List.forall_mem_cons.2
      ⟨calm calms, fun later mem => trans (calm calms) (here later mem)⟩

/-- What is seen of an object, at every event and in the session that is left behind, is what comes
of replaying what has happened; and what can be seen of an object can be seen from then on. -/
structure Replays (view : Handle → Option C) (empty : C) (edit : Event → ScopeId → C → C)
    (i : ScopeId) (log : List Event) (o : Option Session) : Prop where
  events : ∀ before e after, log = before ++ e :: after → ∀ now, e.now.seen? view i = some now →
    now = replay edit i before empty
  ends : ∀ left, o = some left → ∀ now, left.seen? view i = some now →
    now = replay edit i log empty
  stays : (log.map Event.now ++ o.toList).Pairwise fun now later =>
    (now.seen? view i).isSome → (later.seen? view i).isSome

/-- What is seen of an object goes on to be seen if it is calm. -/
lemma Session.Calm.shows (calm : s.Calm s') (shows : (s.seen? view i).isSome) :
    (s'.seen? view i).isSome := by
  obtain ⟨now, found⟩ := Option.isSome_iff_exists.1 shows
  obtain ⟨handle, state, -⟩ := Option.bind_eq_some_iff.1 found
  rw [seen?, handle?_of_tag (calm.tags i (handle?_lt state)), ← seen?]
  exact shows

/-- Where there is nothing to see at first, everything comes of what happens. -/
theorem Story.replays (story : Story s log o) (edits : ∀ e ∈ log, e.Edits view empty edit)
    (blank : ∀ handle now, view handle = some now → handle.Blank → now = empty)
    (nothing : s.seen? view i = none) : Replays view empty edit i log o := by
  have start : s.Holding view empty i empty :=
    ⟨fun now found => absurd (nothing.symm.trans found) nofun, fun _ => rfl⟩
  obtain ⟨events, ends⟩ := story.holding edits blank start
  have stays := story.pairwise (fun first second shows => second (first shows))
    Session.Calm.shows fun e mem => (edits e mem).shows i
  exact ⟨fun before e after split => (events before e after split).holds,
    fun left same => (ends left same).holds, (List.pairwise_cons.1 stays).2⟩

end

end Because
