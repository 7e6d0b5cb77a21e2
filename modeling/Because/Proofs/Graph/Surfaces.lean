import Because.Proofs.Graph.Order

/-!
# What surfaces in explanations

An explanation lists shown reasons only: in the place of a hidden one it lists those that surface
from what the hidden one passes on. The walk that finds the children of a reason opens every hidden
reason at most once. It misses nothing by that, because a reason that it has opened and left again
has had all that surfaces from it listed, and one that it is still inside is younger than all that
it meets there.
-/

namespace Because

namespace Graph

/-- The reason is there and shown. -/
def Shown (g : Graph) (id : ReasonId) : Prop :=
  ∃ node, g.nodes[id]? = some node ∧ node.shown = true

/-- What explanations list in the place of a reason: the reason itself if it is shown, and else what
surfaces from a reason that it passes on. -/
inductive Surfaces (g : Graph) : ReasonId → ReasonId → Prop where
  | shown {id} : g.Shown id → Surfaces g id id
  | hidden {id node cause child} : g.nodes[id]? = some node → node.shown = false →
    cause ∈ node.followed → Surfaces g cause child → Surfaces g id child

/-- What surfaces from one of several reasons. -/
def SurfacesFrom (g : Graph) (ids : List ReasonId) (child : ReasonId) : Prop :=
  ∃ id ∈ ids, g.Surfaces id child

variable {g : Graph} {id child : ReasonId} {node : Node}

namespace Surfaces

/-- Only shown reasons surface. -/
lemma is_shown (h : g.Surfaces id child) : g.Shown child := by
  induction h with
  | shown shown => exact shown
  | hidden _ _ _ _ ih => exact ih

/-- From a shown reason nothing surfaces but the reason itself. -/
lemma eq_of_shown (h : g.Surfaces id child) (shown : g.Shown id) : child = id := by
  cases h with
  | shown => rfl
  | hidden found hidden =>
    obtain ⟨other, found', shown⟩ := shown
    cases found.symm.trans found'
    rw [hidden] at shown
    cases shown

/-- From a hidden reason there surfaces what does so from what it passes on. -/
lemma iff_of_hidden (found : g.nodes[id]? = some node) (hidden : node.shown = false) :
    g.Surfaces id child ↔ g.SurfacesFrom node.followed child := by
  constructor
  · intro h
    cases h with
    | shown shown =>
      obtain ⟨other, found', shown⟩ := shown
      cases found.symm.trans found'
      rw [hidden] at shown
      cases shown
    | hidden found' _ mem surfaces =>
      cases found.symm.trans found'
      exact ⟨_, mem, surfaces⟩
  · rintro ⟨cause, mem, surfaces⟩
    exact .hidden found hidden mem surfaces

end Surfaces

/-! ## Walks -/

/-- All that surfaces from a reason has been listed. -/
def Covers (g : Graph) (w : Walk) (id : ReasonId) : Prop :=
  ∀ child, g.Surfaces id child → child ∈ w.listed

/-- What a walk over reasons has done: it has listed what surfaces from them and nothing else, and
every hidden reason that it has opened has been walked to the end. -/
structure Walked (g : Graph) (ids : List ReasonId) (w w' : Walk) : Prop where
  keeps : w.listed ⊆ w'.listed
  sound : ∀ child ∈ w'.listed, child ∈ w.listed ∨ g.SurfacesFrom ids child
  covers : ∀ id ∈ ids, g.Covers w' id
  opened : ∀ id ∈ w'.opened, id ∈ w.opened ∨ g.Covers w' id

variable {w w' w'' : Walk} {ids : List ReasonId}

/-- What has been covered stays so when more is listed. -/
lemma Covers.mono (h : g.Covers w id) (keeps : w.listed ⊆ w'.listed) : g.Covers w' id :=
  fun child surfaces => keeps (h child surfaces)

namespace Walked

/-- A walk over nothing lists nothing. -/
lemma nil (w : Walk) : g.Walked [] w w where
  keeps := List.Subset.refl _
  sound _ := .inl
  covers := List.forall_mem_nil _
  opened _ := .inl

/-- A walk over several reasons goes over the first and then over the rest. -/
lemma cons (first : g.Walked [id] w w') (rest : g.Walked ids w' w'') :
    g.Walked (id :: ids) w w'' where
  keeps _ mem := rest.keeps (first.keeps mem)
  sound child mem := by
    obtain mem | ⟨other, here, surfaces⟩ := rest.sound child mem
    · refine (first.sound child mem).imp_right ?_
      rintro ⟨other, here, surfaces⟩
      exact ⟨other, List.mem_cons.2 (.inl (List.mem_singleton.1 here)), surfaces⟩
    · exact .inr ⟨other, List.mem_cons_of_mem _ here, surfaces⟩
  covers := by
    refine List.forall_mem_cons.2 ⟨?_, rest.covers⟩
    exact (first.covers id (List.mem_singleton.2 rfl)).mono rest.keeps
  opened other mem := by
    obtain mem | covered := rest.opened other mem
    · exact (first.opened other mem).imp_right fun covered => covered.mono rest.keeps
    · exact .inr covered

/-- A shown reason is listed, unless it has been. -/
lemma list (found : g.nodes[id]? = some node) (shown : node.shown = true) :
    g.Walked [id] w (if w.listed.contains id then w else { w with listed := id :: w.listed }) := by
  have surfaces : g.Surfaces id id := .shown ⟨node, found, shown⟩
  have only (child : ReasonId) (h : g.Surfaces id child) : child = id :=
    h.eq_of_shown ⟨node, found, shown⟩
  split
  · rename_i listed
    refine ⟨List.Subset.refl _, fun _ => .inl, List.forall_mem_singleton.2 ?_, fun _ => .inl⟩
    intro child h
    rw [only child h]
    exact List.contains_iff_mem.1 listed
  · refine ⟨List.subset_cons_self _ _, ?_, List.forall_mem_singleton.2 ?_, fun _ => .inl⟩
    · refine List.forall_mem_cons.2 ⟨.inr ⟨id, List.mem_singleton.2 rfl, surfaces⟩, fun _ => .inl⟩
    · intro child h
      rw [only child h]
      exact List.mem_cons_self

/-- A hidden reason that has been walked to the end is passed by. -/
lemma pass (covered : g.Covers w id) : g.Walked [id] w w :=
  ⟨List.Subset.refl _, fun _ => .inl, List.forall_mem_singleton.2 covered, fun _ => .inl⟩

/-- A hidden reason is opened, and what it passes on is walked over. -/
lemma openHidden (found : g.nodes[id]? = some node) (hidden : node.shown = false)
    (inside : g.Walked node.followed { w with opened := id :: w.opened } w') :
    g.Walked [id] w w' := by
  have surfaces (child : ReasonId) :
      g.Surfaces id child ↔ g.SurfacesFrom node.followed child :=
    Surfaces.iff_of_hidden found hidden
  have covered : g.Covers w' id := by
    intro child h
    obtain ⟨cause, mem, h⟩ := (surfaces child).1 h
    exact inside.covers cause mem child h
  refine ⟨inside.keeps, ?_, List.forall_mem_singleton.2 covered, ?_⟩
  · intro child mem
    refine (inside.sound child mem).imp_right fun h => ?_
    exact ⟨id, List.mem_singleton.2 rfl, (surfaces child).2 h⟩
  · intro other mem
    obtain mem | h := inside.opened other mem
    · obtain rfl | mem := List.mem_cons.1 mem
      · exact .inr covered
      · exact .inl mem
    · exact .inr h

end Walked

/-- All opened reasons below a bound have been walked to the end. -/
def ClosedBelow (g : Graph) (bound : Nat) (w : Walk) : Prop :=
  ∀ id : Nat, id ∈ w.opened → id < bound → g.Covers w id

namespace ClosedBelow

variable {bound : Nat}

/-- At the start no reason has been opened. -/
lemma start (g : Graph) (bound : Nat) : g.ClosedBelow bound {} :=
  fun _ mem => absurd mem List.not_mem_nil

/-- What a walk has opened it has walked to the end. -/
lemma after (closed : g.ClosedBelow bound w) (walked : g.Walked ids w w') :
    g.ClosedBelow bound w' := by
  intro other opened before
  obtain opened | covered := walked.opened other opened
  · exact (closed other opened before).mono walked.keeps
  · exact covered

/-- Inside of a reason that is being opened, only that reason has not been walked to the end. -/
lemma inside {id : Nat} (closed : g.ClosedBelow bound w) (lt : id < bound) :
    g.ClosedBelow id { w with opened := id :: w.opened } := by
  intro other opened before
  obtain rfl | opened := List.mem_cons.1 opened
  · exact absurd before (Nat.lt_irrefl _)
  · exact closed other opened (Nat.lt_trans before lt)

end ClosedBelow

/-- One step of a walk does what it is for if the walk inside does, and if the reason has been
walked to the end should it be open. -/
lemma visit_walked {depth : Nat} (closed : id ∈ w.opened → g.Covers w id)
    (inside : ∀ node w', g.nodes[id]? = some node →
      g.walk depth node.followed { w with opened := id :: w.opened } = .ok w' →
      g.Walked node.followed { w with opened := id :: w.opened } w')
    (ends : g.visit depth w id = .ok w') : g.Walked [id] w w' := by
  obtain ⟨node, got, ends⟩ := of_bind_ok ends
  have found := get_ok got
  cases shown : node.shown with
  | true =>
    rw [shown, if_pos rfl] at ends
    cases ends
    exact .list found shown
  | false =>
    rw [shown, if_neg Bool.false_ne_true] at ends
    split at ends
    · rename_i opened
      obtain rfl : w = w' := Except.ok.inj ends
      exact .pass (closed (List.contains_iff_mem.1 opened))
    · exact .openHidden found shown (inside node w' found ends)

/-- A walk over reasons below `bound` that is deep enough does what it is for, if those among the
opened reasons that it may meet have been walked to the end. -/
lemma Grounded.walked (grounded : g.Grounded) {bound depth : Nat} (deep : bound ≤ depth)
    (below : ∀ id : Nat, id ∈ ids → id < bound)
    (closed : g.ClosedBelow bound w) (ends : g.walk depth ids w = .ok w') : g.Walked ids w w' := by
  induction depth generalizing bound ids w w' with
  | zero =>
    obtain rfl : ids = [] := List.eq_nil_iff_forall_not_mem.2 fun id mem => by
      have := below id mem
      omega
    obtain rfl : w = w' := Except.ok.inj ends
    exact .nil w
  | succ depth deeper =>
    rw [walk_succ] at ends
    induction ids generalizing w with
    | nil =>
      obtain rfl : w = w' := Except.ok.inj ends
      exact .nil w
    | cons id rest ih =>
      obtain ⟨first, others⟩ := List.forall_mem_cons.1 below
      rw [List.foldlM_cons] at ends
      obtain ⟨w1, visited, ends⟩ := of_bind_ok ends
      have step : g.Walked [id] w w1 := by
        refine visit_walked (fun opened => closed id opened first) ?_ visited
        -- What is passed on is older, so that the walk inside meets no reason that it is inside of.
        intro node w2 found inside
        have older := grounded id node found
        exact deeper (Nat.le_of_lt_succ (Nat.lt_of_lt_of_le first deep)) older
          (closed.inside first) inside
      exact step.cons (ih others (closed.after step) ends)

/-- The children of a reason are what surfaces from the reasons that its explanation follows. -/
theorem Grounded.mem_children_iff (grounded : g.Grounded) {children : List ReasonId}
    (found : g.nodes[id]? = some node) (ends : g.children id = .ok children) :
    child ∈ children ↔ g.SurfacesFrom node.followed child := by
  rw [children_eq_walk] at ends
  obtain ⟨other, got, ends⟩ := of_bind_ok ends
  cases found.symm.trans (get_ok got)
  obtain ⟨w, walks, ends⟩ := of_bind_ok ends
  cases ends
  have lt : Nat.lt id g.size := (Array.getElem?_eq_some_iff.1 found).1
  have walked := grounded.walked (Nat.le_succ_of_le (Nat.le_of_lt lt)) (grounded id node found)
    (.start g _) walks
  rw [List.mem_reverse]
  constructor
  · intro mem
    exact (walked.sound child mem).resolve_left List.not_mem_nil
  · rintro ⟨cause, mem, surfaces⟩
    exact walked.covers cause mem child surfaces

end Graph

end Because
