import Because.Proofs.Comparison.Track

/-!
# Comparing runs with differently numbered reasons

Two runs, of which the second numbers its reasons differently: the old ones in whatever way, and
the new ones in step with the first run. What the reasons say does not matter to a program that
does not look at them, so that the graphs need not correspond in anything but the numbers that they
have given out.
-/

namespace Because

/-- A graph of so many reasons, of which nothing is known. -/
def Graph.plain : Nat → Graph
  | 0 => .empty
  | size + 1 => (Graph.plain size).push .unknown [] none

/-- A plain graph has as many reasons as it is asked to have. -/
lemma Graph.size_plain (size : Nat) : (Graph.plain size).size = size := by
  induction size with
  | zero => rfl
  | succ size ih => rw [plain, size_push, ih]

/-- The reasons of a plain graph rest on nothing, and so on nothing newer. -/
lemma Graph.Ordered.plain (size : Nat) : (Graph.plain size).Ordered := by
  induction size with
  | zero => exact .empty
  | succ size ih =>
    have rests : Kind.unknown.Rests [] := trivial
    exact ih.push (List.forall_mem_nil _) rests none

namespace Session

/-- The session without what its reasons say. -/
def bare (s : Session) : Session := { s with graph := .plain s.graph.size }

variable {s : Session}

/-- Once a reason is added, nothing is known of it either. -/
lemma bare_push (kind : Kind) (supporters : List ReasonId) (location : Option Location) :
    bare { s with graph := s.graph.push kind supporters location } =
      { s.bare with graph := s.bare.graph.push .unknown [] none } := by
  simp only [bare, Graph.size_push, Graph.plain]

/-- What reasons say is left out, hidden or not. -/
lemma bare_hideAt (id : ReasonId) : bare { s with graph := s.graph.hideAt id } = s.bare := by
  simp only [bare, Graph.size_hideAt]

/-- The numbers that have been given out do not depend on what the reasons say. -/
lemma census_bare (s : Session) : s.bare.census = s.census := by
  simp only [census, bare, Graph.size_plain]

/-- What a session holds does not depend on what its reasons say. -/
lemma In.bare {c : Census} (h : s.In c) : s.bare.In c := { h with }

/-- A session that holds only numbers that it has given out is sound but for what its reasons
say. -/
lemma In.sound (h : s.In s.census) : s.bare.Sound :=
  ⟨(census_bare s).symm ▸ h.bare, .plain _⟩

end Session

/-- New reasons, those from `old` on, get numbers from `new` on; all others are renamed. -/
def renumber (ρ : ReasonId → ReasonId) (old new : Nat) (i : ReasonId) : ReasonId :=
  if i < old then ρ i else new + (i - old)

section

variable {ρ : ReasonId → ReasonId} {old new : Nat} {i : Nat}

/-- Old reasons are renamed. -/
lemma renumber_old (lt : i < old) : renumber ρ old new i = ρ i := if_pos lt

/-- New reasons are shifted. -/
lemma renumber_new (le : old ≤ i) : renumber ρ old new i = new + (i - old) :=
  if_neg (Nat.not_lt.2 le)

/-- A renaming of old reasons to old reasons, extended to new ones, makes registered reasons
registered ones. -/
lemma renumber_lt (below : ∀ j : Nat, j < old → ρ j < new) {size : Nat} (lt : i < size) :
    renumber ρ old new i < new + (size - old) := by
  by_cases known : i < old
  · rw [renumber_old known]
    exact Nat.lt_of_lt_of_le (below i known) (Nat.le_add_right _ _)
  · rw [renumber_new (Nat.not_lt.1 known)]
    exact Nat.add_lt_add_left (Nat.sub_lt_sub_right (Nat.not_lt.1 known) lt) new

/-- It is ascending if the renaming is. -/
lemma renumber_ascending (below : ∀ j : Nat, j < old → ρ j < new)
    (ascending : ∀ i j : Nat, i < j → j < old → ρ i < ρ j) {j : Nat} (lt : i < j) :
    renumber ρ old new i < renumber ρ old new j := by
  by_cases known : j < old
  · rw [renumber_old known, renumber_old (Nat.lt_trans lt known)]
    exact ascending i j lt known
  · rw [renumber_new (Nat.not_lt.1 known)]
    exact renumber_lt below lt

end

namespace Comparison

/-- The two sessions have recorded as many new reasons, and are set up alike. -/
structure InStep (old new : Nat) (s t : Session) : Prop where
  size : t.graph.size = new + (s.graph.size - old)
  config : t.config = s.config
  limit : t.calls.limit = s.calls.limit

/-- The comparison with a run that numbers its reasons differently: the first `old` of them by
`ρ`, and the later ones in step. -/
def renumbered (ρ : ReasonId → ReasonId) (old new : Nat) : Comparison where
  rename := renumber ρ old new
  own i := old ≤ i
  holds c s t := Tracks (.plain old) c s.bare ∧ InStep old new s t
  fault _ := True
  escape _ := False
  tires := True
  shows := False
  body := Stmt.Discreet

variable {ρ : ReasonId → ReasonId} {old new : Nat} {c : Census} {s t : Session}

namespace Pair

/-- The first run is kept track of, but for what its reasons say. -/
lemma bare (h : (renumbered ρ old new).Pair c s t) :
    (tracked (.plain old)).Pair c s.bare s.bare where
  known := h.known.bare
  bodies _ _ _ _ := trivial
  scopes := (Scopes.rename_id _).symm
  classes := rfl
  functions := rfl
  entered := rfl
  frames := rfl
  console := rfl
  nextObject := rfl
  holds := ⟨rfl, h.holds.1⟩

/-- The reasons from before the run are still there. -/
lemma old_le (h : (renumbered ρ old new).Pair c s t) : old ≤ s.graph.size := by
  have le := h.holds.1.size
  rw [Graph.size_plain] at le
  exact Nat.le_trans le (Nat.le_of_eq (Graph.size_plain _))

/-- The reasons in the census have been recorded. -/
lemma registered (h : (renumbered ρ old new).Pair c s t) {i : Nat} (known : c.reason i) :
    i < s.graph.size :=
  Nat.lt_of_lt_of_eq (h.holds.1.known.reason known) (Graph.size_plain _)

/-- The reasons in the census get numbers that the second run has given out. -/
lemma renumber_lt (h : (renumbered ρ old new).Pair c s t)
    (below : ∀ j : Nat, j < old → ρ j < new) {i : Nat} (known : c.reason i) :
    renumber ρ old new i < t.graph.size :=
  Nat.lt_of_lt_of_eq (Because.renumber_lt below (h.registered known))
    h.holds.2.size.symm

/-- The next reason of the first run will correspond to the next one of the second. -/
lemma renumber_size (h : (renumbered ρ old new).Pair c s t) :
    t.graph.size = renumber ρ old new s.graph.size := by
  rw [h.holds.2.size, renumber_new h.old_le]

/-- Both graphs grow by a reason, whatever it says. -/
lemma push (h : (renumbered ρ old new).Pair c s t) (kind kind' : Kind)
    (supporters supporters' : List ReasonId) (location location' : Option Location) :
    ∃ d, c.Le d ∧ (renumbered ρ old new).Owned d s.graph.size ∧
      (renumbered ρ old new).holds d { s with graph := s.graph.push kind supporters location }
        { t with graph := t.graph.push kind' supporters' location' } := by
  have leaf : Kind.unknown.IsLeaf := trivial
  obtain ⟨-, d, le, ⟨reason, -⟩, -, tracks⟩ := Lawful.leaf h.bare leaf
  refine ⟨d, le, ⟨Graph.size_plain s.graph.size ▸ reason, h.old_le⟩, ?_, ?_⟩
  · rw [Session.bare_push]
    exact tracks
  · refine { h.holds.2 with size := ?_ }
    have size := h.holds.2.size
    have le := h.old_le
    rw [Graph.size_push, Graph.size_push, size]
    omega

end Pair

/-- What a program does that does not look at reasons does not depend on their numbers. -/
lemma renumbered_lawful (below : ∀ i : Nat, i < old → ρ i < new) :
    (renumbered ρ old new).Lawful where
  plain _ := trivial
  leaf := by
    intro c s t kind pair _
    exact ⟨pair.renumber_size, pair.push kind kind [] [] none none⟩
  record := by
    intro c s t kind supporters location pair _ known
    have older : ∀ j : Nat, j ∈ supporters → j < s.graph.size :=
      fun j mem => pair.registered (known j mem)
    have older' : ∀ j : Nat, j ∈ supporters.map (renumber ρ old new) → j < t.graph.size := by
      intro j mem
      obtain ⟨i, supports, rfl⟩ := List.mem_map.1 mem
      exact pair.renumber_lt below (known i supports)
    rw [Graph.add_ok older, show (renumbered ρ old new).rename = renumber ρ old new from rfl,
      Graph.add_ok older']
    exact .ok ⟨pair.renumber_size, pair.push ..⟩
  hide := by
    intro c s t id pair owned
    rw [Graph.hide_ok (pair.registered owned.reason),
      show (renumbered ρ old new).rename = renumber ρ old new from rfl,
      Graph.hide_ok (pair.renumber_lt below owned.reason)]
    obtain ⟨tracks, step⟩ := pair.holds
    refine .ok ⟨?_, { step with size := ?_ }⟩
    · rw [Session.bare_hideAt]
      exact tracks
    · rw [Graph.size_hideAt, Graph.size_hideAt]
      exact step.size
  explain _ _ never := never.elim
  node _ never := never.elim
  -- The rest does not touch the graph. The first run is kept track of without it, so that its own
  -- laws say how the census grows; and the two runs stay in step.
  newScope := by
    intro c s t parent description pair known
    obtain ⟨d, le, made, -, tracks⟩ := Lawful.newScope description pair.bare known
    exact ⟨d, le, made, tracks, { pair.holds.2 with }⟩
  declare := by
    intro c s t scope name info pair place known free
    obtain ⟨-, tracks⟩ := Lawful.declare pair.bare place known free
    exact ⟨tracks, { pair.holds.2 with }⟩
  assign := by
    intro c s t scope owner name info pair place known found
    obtain ⟨-, tracks⟩ := Lawful.assign pair.bare place known found
    exact ⟨tracks, { pair.holds.2 with }⟩
  tag := by
    intro c s t scope classId number pair known hc
    obtain ⟨d, le, made, -, tracks⟩ := Lawful.tag number pair.bare known hc
    exact ⟨d, le, made, tracks, { pair.holds.2 with }⟩
  handle := by
    intro c s t scope handle pair known hh
    obtain ⟨-, tracks⟩ := Lawful.handle pair.bare known hh
    exact ⟨tracks, { pair.holds.2 with }⟩
  define := by
    intro c s t function pair known
    obtain ⟨d, le, made, -, tracks⟩ := Lawful.define pair.bare known
    exact ⟨d, le, made, tracks, { pair.holds.2 with }⟩
  defineClass := by
    intro c s t classDef pair parent known
    obtain ⟨d, le, made, -, tracks⟩ := Lawful.defineClass pair.bare parent known
    exact ⟨d, le, made, tracks, { pair.holds.2 with }⟩
  setMethod := by
    intro c s t id name function pair known hf
    obtain ⟨-, tracks⟩ := Lawful.setMethod pair.bare known hf
    exact ⟨tracks, { pair.holds.2 with }⟩
  nextObject := by
    intro c s t number pair
    obtain ⟨-, tracks⟩ := Lawful.nextObject number pair.bare
    exact ⟨tracks, { pair.holds.2 with }⟩
  console := by
    intro c s t console pair
    obtain ⟨-, tracks⟩ := Lawful.console console pair.bare
    exact ⟨tracks, { pair.holds.2 with }⟩
  enter := by
    intro c s t scope pair known
    obtain ⟨-, tracks⟩ := Lawful.enter pair.bare known
    exact ⟨tracks, { pair.holds.2 with }⟩
  leave := by
    intro c s t pair
    obtain ⟨-, tracks⟩ := Lawful.leave pair.bare
    exact ⟨tracks, { pair.holds.2 with }⟩
  endCall := by
    intro c d s t s' t' pair le pair'
    obtain ⟨-, tracks⟩ := Lawful.endCall pair.bare le pair'.bare
    exact ⟨tracks, { pair'.holds.2 with limit := pair.holds.2.limit }⟩

/-- A call may begin in both runs or in neither. -/
lemma renumbered_room (frame : Frame) (pair : (renumbered ρ old new).Pair c s t) :
    (renumbered ρ old new).Room c frame s t := by
  obtain ⟨tracks, step⟩ := pair.holds
  have full : t.calls.isFull = s.calls.isFull := by
    unfold CallStack.isFull CallStack.depth
    rw [step.limit, pair.frames]
  cases e : s.calls.isFull with
  | true => exact .full e (full.trans e) step.limit trivial
  | false => exact .room e (full.trans e) ⟨tracks.change (.refl _) rfl, { step with }⟩

/-- Whatever shows no reasons matches itself. -/
lemma renumbered_insides (below : ∀ i : Nat, i < old → ρ i < new) (steps : Nat) :
    (renumbered ρ old new).Insides (Expr.Everywhere fun expr => ¬ expr.ShowsReason) Stmt.Discreet
      (.within steps) (.within steps) := by
  have lawful := renumbered_lawful below
  refine .within_of trivial ?_ ?_ (fun _ discreet => discreet) renumbered_room steps
  · intro expr discreet
    obtain ⟨shows, inside⟩ := Expr.everywhere_iff.1 discreet
    exact parts_expr (fun does => shows does) inside
  · intro stmt discreet
    obtain ⟨shows, exprs, inside⟩ := Stmt.everywhere_iff.1 discreet
    exact parts_stmt (fun does => shows does) (fun _ => trivial) inside exprs inside

end Comparison

end Because
