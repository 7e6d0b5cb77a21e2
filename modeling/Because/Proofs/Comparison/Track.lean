import Because.Proofs.Comparison.Run
import Because.Proofs.Graph.Growth

/-!
# Keeping track of a run

A run compared with itself, along which every number that the session holds is one that it has
given out, the graph of reasons stays ordered, and the reasons of a graph that was there before
stay as they were. The run may hide only the reasons that it has recorded itself.
-/

namespace Because

namespace Session

/-- The numbers that a session has given out. -/
def census (s : Session) : Census where
  reason i := i < s.graph.size
  scope i := i < s.scopes.size
  object i := i < s.scopes.size ∧ (s.scopes.scopeAt i).tag.isSome
  classId i := i < s.classes.size
  function i := i < s.functions.size
  scope_of_object h := h.1

/-- A session that holds only numbers that it has given out, and whose reasons rest on older
ones. -/
structure Sound (s : Session) : Prop where
  known : s.In s.census
  ordered : s.graph.Ordered

/-- A session that has more of everything, and whose objects are still objects, has given out
more numbers. -/
lemma census_le {s s' : Session} (graph : s.graph.size ≤ s'.graph.size)
    (scopes : s.scopes.size ≤ s'.scopes.size)
    (tags : ∀ i, (s.scopes.scopeAt i).tag.isSome → (s'.scopes.scopeAt i).tag.isSome)
    (classes : s.classes.size ≤ s'.classes.size)
    (functions : s.functions.size ≤ s'.functions.size) : s.census.Le s'.census where
  reason h := Nat.lt_of_lt_of_le h graph
  scope h := Nat.lt_of_lt_of_le h scopes
  object h := ⟨Nat.lt_of_lt_of_le h.1 scopes, tags _ h.2⟩
  classId h := Nat.lt_of_lt_of_le h classes
  function h := Nat.lt_of_lt_of_le h functions

/-- A graph with more reasons gives out more numbers, and nothing else does. -/
lemma census_graph {s : Session} {g : Graph} (size : s.graph.size ≤ g.size) :
    s.census.Le (census { s with graph := g }) :=
  census_le size (Nat.le_refl _) (fun _ tagged => tagged) (Nat.le_refl _) (Nat.le_refl _)

end Session

namespace Comparison

/-- What holds along a run that began with the graph `g`. -/
structure Tracks (g : Graph) (c : Census) (s : Session) : Prop where
  known : c.Le s.census
  ordered : s.graph.Ordered
  size : g.size ≤ s.graph.size
  same : Graph.SameBelow g.size g s.graph

/-- The comparison of a run with itself, kept track of since the graph was `g`. -/
def tracked (g : Graph) : Comparison where
  rename := id
  own i := g.size ≤ i
  holds c s t := s = t ∧ Tracks g c s
  fault fault := ∀ cause, fault ≠ .graph cause
  escape _ := False
  tires := True
  shows := True
  body _ := True

variable {g : Graph} {c : Census} {s s' : Session}

/-- A run that is kept track of may do anything. -/
lemma tracked_admits : (tracked g).Admits := ⟨trivial, trivial, fun _ => trivial⟩

/-- A sound session corresponds to itself. -/
lemma tracked_pair (sound : s.Sound) : (tracked s.graph).Pair s.census s s where
  known := sound.known
  bodies _ _ _ _ := trivial
  scopes := (Scopes.rename_id _).symm
  classes := rfl
  functions := rfl
  entered := rfl
  frames := rfl
  console := rfl
  nextObject := rfl
  holds := ⟨rfl, .refl _, sound.ordered, Nat.le_refl _, .refl _ _⟩

/-- A session that is kept track of is sound. -/
lemma Pair.sound {t : Session} (h : (tracked g).Pair c s t) : t.Sound := by
  obtain ⟨rfl, tracks⟩ := h.holds
  exact ⟨h.known.mono tracks.known, tracks.ordered⟩

namespace Tracks

/-- A change that does not touch the graph. -/
lemma change (h : Tracks g c s) (grows : s.census.Le s'.census) (graph : s'.graph = s.graph) :
    Tracks g c s' where
  known := h.known.trans grows
  ordered := graph ▸ h.ordered
  size := graph ▸ h.size
  same := graph ▸ h.same

/-- After a change that does not touch the graph the census may be brought up to date. -/
lemma change_new (h : Tracks g c s) (grows : s.census.Le s'.census)
    (graph : s'.graph = s.graph) : c.Le s'.census ∧ Tracks g s'.census s' := by
  have later := h.change grows graph
  exact ⟨later.known, .refl _, later.ordered, later.size, later.same⟩

/-- A reason that rests on older ones may be recorded, and is then the run's own. -/
lemma push (h : Tracks g c s) {kind : Kind} {supporters : List ReasonId}
    (older : ∀ j : Nat, j ∈ supporters → j < s.graph.size) (rests : kind.Rests supporters)
    (location : Option Location) :
    ∃ d, c.Le d ∧ (tracked g).Owned d s.graph.size ∧
      Tracks g d { s with graph := s.graph.push kind supporters location } := by
  have size := Graph.size_push (g := s.graph) kind supporters location
  have grows := Session.census_graph (Nat.le.intro size.symm)
  refine ⟨_, h.known.trans grows, ⟨?_, h.size⟩, .refl _, ?_, ?_, ?_⟩
  · exact Nat.lt_of_lt_of_eq (Nat.lt_succ_self _) size.symm
  · exact h.ordered.push older rests location
  · exact Nat.le_trans h.size (Nat.le.intro size.symm)
  · exact h.same.trans (.push h.size kind supporters location)

/-- A reason of the run's own may be hidden. -/
lemma hideAt (h : Tracks g c s) {id : ReasonId} (own : g.size ≤ id) :
    Tracks g c { s with graph := s.graph.hideAt id } := by
  have size : (s.graph.hideAt id).size = s.graph.size := Graph.size_hideAt id
  have grows := Session.census_graph (Nat.le_of_eq size.symm)
  refine ⟨h.known.trans grows, h.ordered.hideAt id, ?_, ?_⟩
  · exact Nat.le_trans h.size (Nat.le_of_eq size.symm)
  · exact h.same.trans (.hideAt own)

end Tracks

/-! ## Scopes that become objects -/

/-- Only scopes that exist have tags. -/
lemma lt_size_of_tag {scopes : Scopes} {i : ScopeId} (h : (scopes.scopeAt i).tag.isSome) :
    i < scopes.size := by
  by_contra beyond
  have none : scopes.all[i]? = none := Array.getElem?_eq_none (Nat.not_lt.1 beyond)
  simp only [Scopes.scopeAt, none] at h
  cases h

/-- A new scope takes no tag away. -/
lemma tag_push {scopes : Scopes} (scope : Scope) {i : ScopeId}
    (h : (scopes.scopeAt i).tag.isSome) : ((scopes.push scope).scopeAt i).tag.isSome := by
  have old : i ≠ scopes.size := Nat.ne_of_lt (lt_size_of_tag h)
  rw [Scopes.scopeAt_push, if_neg old]
  exact h

/-- A change that takes no tag away leaves the objects as they are. -/
lemma tag_update {scopes : Scopes} {scope : ScopeId} {f : Scope → Scope}
    (hf : ∀ data : Scope, data.tag.isSome → (f data).tag.isSome) {i : ScopeId}
    (h : (scopes.scopeAt i).tag.isSome) : ((scopes.update scope f).scopeAt i).tag.isSome := by
  rw [Scopes.scopeAt_update]
  split
  · exact hf _ h
  · exact h

/-- A change that takes no tag away takes no number back. -/
lemma census_update {scope : ScopeId} {f : Scope → Scope}
    (hf : ∀ data : Scope, data.tag.isSome → (f data).tag.isSome) :
    s.census.Le (Session.census { s with scopes := s.scopes.update scope f }) :=
  Session.census_le (Nat.le_refl _) (Nat.le_of_eq (Scopes.size_update ..).symm)
    (fun _ => tag_update hf) (Nat.le_refl _) (Nat.le_refl _)

/-- Binding a variable takes no number back. -/
lemma census_bind (scope : ScopeId) (name : String) (info : Justified) :
    s.census.Le (Session.census { s with scopes := s.scopes.bind scope name info }) :=
  census_update fun _ h => h

/-! ## Laws -/

/-- A run keeps track of itself: it is in order whatever it does. -/
instance tracked_lawful : (tracked g).Lawful where
  plain {fault} h := by
    rintro cause rfl
    exact h
  leaf := by
    intro c s t kind pair isLeaf
    obtain ⟨rfl, tracks⟩ := pair.holds
    have rests : kind.Rests [] := by
      cases kind with
      | text | unknown => trivial
      | _ => exact isLeaf.elim
    obtain ⟨d, le, own, later⟩ := tracks.push (by simp) rests none
    exact ⟨rfl, d, le, own, rfl, later⟩
  record := by
    intro c s t kind supporters location pair rests known
    obtain ⟨rfl, tracks⟩ := pair.holds
    have older : ∀ j : Nat, j ∈ supporters → j < s.graph.size :=
      fun j mem => tracks.known.reason (known j mem)
    have same : kind.rename (tracked g).rename = kind := Kind.rename_id kind
    have same' : supporters.map (tracked g).rename = supporters := List.map_id supporters
    rw [same, same', Graph.add_ok older]
    obtain ⟨d, le, own, later⟩ := tracks.push older rests (s.graph.locate supporters location)
    exact .ok ⟨rfl, d, le, own, rfl, later⟩
  hide := by
    intro c s t id pair owned
    obtain ⟨rfl, tracks⟩ := pair.holds
    -- The reasons that were there before are not the run's own, and are never hidden.
    have hidden := Graph.hide_ok (tracks.known.reason owned.reason)
    rw [show (tracked g).rename id = id from rfl, hidden]
    exact .ok ⟨rfl, tracks.hideAt owned.own⟩
  explain := by
    intro c s t id depth pair _ known
    obtain ⟨rfl, tracks⟩ := pair.holds
    -- An ordered graph explains all its reasons.
    have lt := tracks.known.reason known
    obtain ⟨text, found, -, -⟩ := Graph.explainTree_agree tracks.ordered (Nat.le_refl _)
      (.refl _ _) (Nat.le_refl _) lt depth
    simp only [Session.explain, tracked, id_eq, found]
    exact .ok rfl
  node := by
    intro c s t id pair _ known
    obtain ⟨rfl, tracks⟩ := pair.holds
    obtain ⟨node, found, -, -⟩ := Graph.get_agree tracks.ordered (Nat.le_refl _) (.refl _ _)
      (tracks.known.reason known)
    rw [show (tracked g).rename id = id from rfl, found]
    exact .ok rfl
  newScope := by
    intro c s t parent description pair _
    obtain ⟨rfl, tracks⟩ := pair.holds
    have size := Scopes.size_push s.scopes { parent := some parent, description }
    have grows : s.census.Le (Session.census
        { s with scopes := s.scopes.push { parent := some parent, description } }) :=
      Session.census_le (Nat.le_refl _) (Nat.le.intro size.symm) (fun _ => tag_push _)
        (Nat.le_refl _) (Nat.le_refl _)
    obtain ⟨le, later⟩ := tracks.change_new grows rfl
    exact ⟨_, le, Nat.lt_of_lt_of_eq (Nat.lt_succ_self _) size.symm, rfl, later⟩
  declare := by
    intro c s t scope name info pair _ _ _
    obtain ⟨rfl, tracks⟩ := pair.holds
    exact ⟨rfl, tracks.change (census_bind scope name info) rfl⟩
  assign := by
    intro c s t scope owner name info pair _ _ _
    obtain ⟨rfl, tracks⟩ := pair.holds
    exact ⟨rfl, tracks.change (census_bind owner name info) rfl⟩
  tag := by
    intro c s t scope classId number pair known _
    obtain ⟨rfl, tracks⟩ := pair.holds
    have grows : s.census.Le (Session.census { s with
        scopes := s.scopes.update scope
          (fun data => { data with tag := some ⟨number, classId, none⟩ }) }) :=
      census_update fun _ _ => rfl
    obtain ⟨le, later⟩ := tracks.change_new grows rfl
    have lt : scope < s.scopes.size := tracks.known.scope known
    refine ⟨_, le, ⟨Nat.lt_of_lt_of_eq lt (Scopes.size_update ..).symm, ?_⟩, rfl, later⟩
    rw [Scopes.scopeAt_update, if_pos ⟨rfl, lt⟩]
    rfl
  handle := by
    intro c s t scope handle pair _ _
    obtain ⟨rfl, tracks⟩ := pair.holds
    rw [show handle.rename (tracked g).rename = handle from congrFun Handle.rename_id handle]
    refine ⟨rfl, tracks.change (census_update fun data tagged => ?_) rfl⟩
    simpa using tagged
  define := by
    intro c s t function pair _
    obtain ⟨rfl, tracks⟩ := pair.holds
    have size : (s.functions.push function).size = s.functions.size + 1 := Array.size_push ..
    have grows : s.census.Le (Session.census
        { s with functions := s.functions.push function }) :=
      Session.census_le (Nat.le_refl _) (Nat.le_refl _) (fun _ h => h) (Nat.le_refl _)
        (Nat.le.intro size.symm)
    obtain ⟨le, later⟩ := tracks.change_new grows rfl
    exact ⟨_, le, Nat.lt_of_lt_of_eq (Nat.lt_succ_self _) size.symm, rfl, later⟩
  defineClass := by
    intro c s t classDef pair _ _
    obtain ⟨rfl, tracks⟩ := pair.holds
    have size : (s.classes.push classDef).size = s.classes.size + 1 := Array.size_push ..
    have grows : s.census.Le (Session.census { s with classes := s.classes.push classDef }) :=
      Session.census_le (Nat.le_refl _) (Nat.le_refl _) (fun _ h => h) (Nat.le.intro size.symm)
        (Nat.le_refl _)
    obtain ⟨le, later⟩ := tracks.change_new grows rfl
    exact ⟨_, le, Nat.lt_of_lt_of_eq (Nat.lt_succ_self _) size.symm, rfl, later⟩
  setMethod := by
    intro c s t id name function pair _ _
    obtain ⟨rfl, tracks⟩ := pair.holds
    refine ⟨rfl, tracks.change (Session.census_le (Nat.le_refl _) (Nat.le_refl _)
      (fun _ h => h) (Nat.le_of_eq ?_) (Nat.le_refl _)) rfl⟩
    exact Array.size_modify.symm
  nextObject := by
    intro c s t number pair
    obtain ⟨rfl, tracks⟩ := pair.holds
    exact ⟨rfl, tracks.change (.refl _) rfl⟩
  console := by
    intro c s t console pair
    obtain ⟨rfl, tracks⟩ := pair.holds
    exact ⟨rfl, tracks.change (.refl _) rfl⟩
  enter := by
    intro c s t scope pair _
    obtain ⟨rfl, tracks⟩ := pair.holds
    exact ⟨rfl, tracks.change (.refl _) rfl⟩
  leave := by
    intro c s t pair
    obtain ⟨rfl, tracks⟩ := pair.holds
    exact ⟨rfl, tracks.change (.refl _) rfl⟩
  endCall := by
    intro c d s t s' t' pair _ pair'
    obtain ⟨rfl, -⟩ := pair.holds
    obtain ⟨rfl, tracks⟩ := pair'.holds
    exact ⟨rfl, tracks.change (.refl _) rfl⟩

/-- A call may always be begun alongside itself. -/
lemma tracked_room {s t : Session} (frame : Frame) (pair : (tracked g).Pair c s t) :
    (tracked g).Room c frame s t := by
  obtain ⟨rfl, tracks⟩ := pair.holds
  cases e : s.calls.isFull with
  | true => exact .full e e rfl nofun
  | false => exact .room e e ⟨rfl, tracks.change (.refl _) rfl⟩

/-- Every number of steps can be kept track of. -/
lemma tracked_insides (steps : Nat) :
    (tracked g).Insides (fun _ => True) (fun _ => True) (.within steps) (.within steps) :=
  .within tracked_admits tracked_room steps

end Comparison

end Because
