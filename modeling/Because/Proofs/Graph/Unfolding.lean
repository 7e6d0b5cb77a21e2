import Because.Proofs.Distinct
import Because.Proofs.Graph.Records
import Because.Proofs.Graph.Surfaces

/-!
# Children by plain unfolding

The plain way to list the children of a reason goes through its causes from left to right, keeps
those that are shown and puts in the place of a hidden one what the same way lists for it, over
and over. It meets a reason as often as there are ways to it. The walk that finds the children
opens each hidden reason once. It lists the same reasons in the same order, each where the plain
way meets it first: a hidden reason that it passes by has had all that it leads to listed before.
-/

namespace Because

namespace Graph

/-- Whether a reason is there and shown. -/
def shows (g : Graph) (id : ReasonId) : Bool := (g.nodes[id]?).any Node.shown

/-- The causes that explanations follow from a reason; a number that no reason has leads nowhere. -/
def followedAt (g : Graph) (id : ReasonId) : List ReasonId :=
  match g.nodes[id]? with
  | some node => node.followed
  | none => []

/-- The causes of a reason from left to right, with those of a hidden cause in its place, and so
on, however often one is met. A cause that is not older would lead round in a circle, and counts
for nothing. -/
def unfolded (g : Graph) (id : Nat) : List ReasonId :=
  (g.followedAt id).flatMap fun (cause : Nat) =>
    if cause < id then
      if g.shows cause then [cause] else g.unfolded cause
    else []
termination_by id

/-- What the plain way lists for a cause: the cause itself, or what stands in its place. -/
def inPlace (g : Graph) (cause : ReasonId) : List ReasonId :=
  if g.shows cause then [cause] else g.unfolded cause

variable {g : Graph} {id child : ReasonId} {node : Node} {ids : List ReasonId} {w w' : Walk}

/-- Whether a reason shows is whether it is there and shown. -/
lemma shows_iff : g.shows id = true ↔ g.Shown id := by
  simp only [shows, Option.any_eq_true, Shown]

/-- Whether a reason shows is written on it. -/
lemma shows_eq (found : g.nodes[id]? = some node) : g.shows id = node.shown := by
  simp only [shows, found, Option.any_some]

/-- A reason that is there is followed to where it leads. -/
lemma followedAt_eq (found : g.nodes[id]? = some node) : g.followedAt id = node.followed := by
  simp only [followedAt, found]

/-- In a grounded graph all causes are older. -/
lemma Grounded.followedAt_lt (grounded : g.Grounded) {id cause : Nat}
    (mem : cause ∈ g.followedAt id) : cause < id := by
  unfold followedAt at mem
  split at mem
  · exact grounded id _ ‹_› cause mem
  · cases mem

/-- In a grounded graph the plain way leaves no cause out. -/
lemma Grounded.unfolded_eq (grounded : g.Grounded) (id : Nat) :
    g.unfolded id = (g.followedAt id).flatMap g.inPlace := by
  rw [unfolded]
  refine List.flatMap_congr fun cause mem => ?_
  rw [if_pos (grounded.followedAt_lt mem), inPlace]

/-- What is shown stands in its own place. -/
lemma inPlace_of_shown (shown : g.shows id = true) : g.inPlace id = [id] := if_pos shown

/-- In place of a hidden reason stands what stands in place of its causes. -/
lemma Grounded.inPlace_of_hidden (grounded : g.Grounded) (found : g.nodes[id]? = some node)
    (hidden : node.shown = false) : g.inPlace id = node.followed.flatMap g.inPlace := by
  rw [inPlace, shows_eq found, hidden, if_neg Bool.false_ne_true, grounded.unfolded_eq,
    followedAt_eq found]

/-- All that the plain way lists for a reason surfaces from it. -/
lemma Grounded.surfaces_of_mem_inPlace (grounded : g.Grounded) {cause : Nat}
    (there : cause < g.size) (mem : child ∈ g.inPlace cause) : g.Surfaces cause child := by
  induction cause using Nat.strongRecOn with
  | ind cause ih =>
    have found : g.nodes[cause]? = some g.nodes[cause] := Array.getElem?_eq_getElem there
    cases shown : g.nodes[cause].shown with
    | true =>
      rw [inPlace_of_shown ((shows_eq found).trans shown), List.mem_singleton] at mem
      rw [mem]
      exact .shown ⟨_, found, shown⟩
    | false =>
      rw [grounded.inPlace_of_hidden found shown] at mem
      obtain ⟨next, followed, mem⟩ := List.mem_flatMap.1 mem
      have older := grounded cause _ found next followed
      exact .hidden found shown followed (ih next older (Nat.lt_trans older there) mem)

/-- What surfaces from a reason is not younger. -/
lemma Grounded.le_of_surfaces (grounded : g.Grounded) {cause child : Nat}
    (surfaces : g.Surfaces cause child) : child ≤ cause := by
  induction surfaces with
  | shown => exact Nat.le_refl _
  | hidden found _ followed _ ih =>
    exact Nat.le_trans ih (Nat.le_of_lt (grounded _ _ found _ followed))

/-! ## Putting down what is new -/

/-- Go through reasons and put down each that is new, the latest first. -/
def noted (listed ids : List ReasonId) : List ReasonId :=
  ids.foldl (fun listed id => if id ∈ listed then listed else id :: listed) listed

/-- A single reason is put down if it is new. -/
lemma noted_singleton (listed : List ReasonId) (id : ReasonId) :
    noted listed [id] = if id ∈ listed then listed else id :: listed := rfl

/-- Reasons can be gone through one part after the other. -/
lemma noted_append (listed ids others : List ReasonId) :
    noted listed (ids ++ others) = noted (noted listed ids) others :=
  List.foldl_append

/-- Where no reason is new, none is put down. -/
lemma noted_of_subset {listed ids : List ReasonId} (known : ids ⊆ listed) :
    noted listed ids = listed := by
  induction ids with
  | nil => rfl
  | cons id rest ih =>
    obtain ⟨first, others⟩ := List.cons_subset.1 known
    rw [noted, List.foldl_cons, if_pos first]
    exact ih others

/-- What has been put down, from the first on, is what was met without later repetitions. -/
lemma reverse_noted (ids : List ReasonId) : (noted [] ids).reverse = ids.eraseDups := by
  induction ids using List.reverseRecOn with
  | nil => rfl
  | append_singleton ids id ih =>
    have known : id ∈ noted [] ids ↔ id ∈ ids := by
      rw [← List.mem_reverse, ih, List.mem_eraseDups]
    rw [noted_append, noted_singleton, eraseDups_concat, ← ih]
    simp only [known]
    split
    · rfl
    · exact List.reverse_cons

/-! ## The walk -/

/-- One step of a walk puts down what the plain way lists for a reason if the walk inside does, and
if the reason has been walked to the end should it be open. -/
lemma Grounded.visit_noted (grounded : g.Grounded) {depth : Nat}
    (closed : id ∈ w.opened → g.Covers w id)
    (inside : ∀ node w', g.nodes[id]? = some node →
      g.walk depth node.followed { w with opened := id :: w.opened } = .ok w' →
      w'.listed = noted w.listed (node.followed.flatMap g.inPlace))
    (ends : g.visit depth w id = .ok w') : w'.listed = noted w.listed (g.inPlace id) := by
  obtain ⟨node, got, ends⟩ := of_bind_ok ends
  have found := get_ok got
  cases shown : node.shown with
  | true =>
    rw [shown, if_pos rfl] at ends
    cases ends
    rw [inPlace_of_shown (shows_eq found ▸ shown), noted_singleton]
    simp only [List.contains_iff_mem]
    split <;> rfl
  | false =>
    rw [shown, if_neg Bool.false_ne_true] at ends
    split at ends
    · -- What the reason leads to has been put down before.
      rename_i opened
      obtain rfl : w = w' := Except.ok.inj ends
      have covered := closed (List.contains_iff_mem.1 opened)
      refine (noted_of_subset fun child mem => ?_).symm
      exact covered child (grounded.surfaces_of_mem_inPlace (lt_size found) mem)
    · rw [grounded.inPlace_of_hidden found shown]
      exact inside node w' found ends

/-- A walk over reasons below `bound` that is deep enough puts down what the plain way lists for
them, if those among the opened reasons that it may meet have been walked to the end. -/
lemma Grounded.walk_noted (grounded : g.Grounded) {bound depth : Nat} (deep : bound ≤ depth)
    (below : ∀ id : Nat, id ∈ ids → id < bound) (closed : g.ClosedBelow bound w)
    (ends : g.walk depth ids w = .ok w') : w'.listed = noted w.listed (ids.flatMap g.inPlace) := by
  induction depth generalizing bound ids w w' with
  | zero =>
    obtain rfl : ids = [] := List.eq_nil_iff_forall_not_mem.2 fun id mem => by
      have := below id mem
      omega
    obtain rfl : w = w' := Except.ok.inj ends
    rfl
  | succ depth deeper =>
    rw [walk_succ] at ends
    induction ids generalizing w with
    | nil =>
      obtain rfl : w = w' := Except.ok.inj ends
      rfl
    | cons id rest ih =>
      obtain ⟨first, others⟩ := List.forall_mem_cons.1 below
      rw [List.foldlM_cons] at ends
      obtain ⟨w1, visited, ends⟩ := of_bind_ok ends
      have step : w1.listed = noted w.listed (g.inPlace id) := by
        refine grounded.visit_noted (fun opened => closed id opened first) ?_ visited
        intro node w2 found inside
        have older := grounded id node found
        have lists := deeper (Nat.le_of_lt_succ (Nat.lt_of_lt_of_le first deep)) older
          (closed.inside first) inside
        exact lists
      have walked : g.Walked [id] w w1 := by
        refine grounded.walked deep (List.forall_mem_singleton.2 first) closed ?_
        rw [walk_succ, List.foldlM_cons, visited]
        rfl
      rw [List.flatMap_cons, noted_append, ← step]
      exact ih others (closed.after walked) ends

/-- The children of a reason are what the plain way lists for it, without later repetitions. -/
lemma Grounded.children_eq (grounded : g.Grounded) {id : Nat} (lt : id < g.size) :
    g.children id = .ok (g.unfolded id).eraseDups := by
  have found : g.nodes[id]? = some g.nodes[id] := Array.getElem?_eq_getElem lt
  obtain ⟨children, listed, -⟩ := (grounded.explains lt).1
  have ends := listed
  rw [children_eq_walk] at ends
  obtain ⟨node, got, ends⟩ := of_bind_ok ends
  obtain rfl : g.nodes[id] = node := Option.some.inj (found.symm.trans (get_ok got))
  obtain ⟨w, walks, ends⟩ := of_bind_ok ends
  cases ends
  have lists := grounded.walk_noted (Nat.le_succ_of_le (Nat.le_of_lt lt)) (grounded id _ found)
    (.start g _) walks
  rw [listed, lists, reverse_noted, grounded.unfolded_eq, followedAt_eq found]

/-- How the children of a reason come from plain unfolding, and what this says of them. -/
structure Unfolds (g : Graph) (id : Nat) (children : List ReasonId) : Prop where
  plain : g.unfolded id = (g.followedAt id).flatMap fun cause =>
    if g.shows cause then [cause] else g.unfolded cause
  firsts : children = (g.unfolded id).eraseDups
  nodup : children.Nodup
  shown : ∀ child ∈ children, g.shows child = true
  older : ∀ child : Nat, child ∈ children → child < id
  /-- Nothing is missing that is shown and that hidden reasons lead to. -/
  complete : ∀ child, g.SurfacesFrom (g.followedAt id) child → child ∈ children

/-- Whatever operations have made a graph, if all that was recorded in the unrestricted way had its
values among its supporters, the children of every reason are what plain unfolding lists for it,
without later repetitions. -/
theorem children_unfold (operations : List Operation)
    (added : ∀ kind supporters location, .add kind supporters location ∈ operations →
      kind.values ⊆ supporters) :
    let g := empty.after operations
    ∀ id : Nat, id < g.size → ∃ children, g.children id = .ok children ∧ g.Unfolds id children := by
  intro g id lt
  have grounded : g.Grounded := (descending_after added).grounded
  have found : g.nodes[id]? = some g.nodes[id] := Array.getElem?_eq_getElem lt
  have listed := grounded.children_eq lt
  have surface (child : ReasonId) :
      child ∈ (g.unfolded id).eraseDups ↔ g.SurfacesFrom (g.followedAt id) child := by
    rw [followedAt_eq found]
    exact grounded.mem_children_iff found listed
  refine ⟨_, listed, grounded.unfolded_eq id, rfl, nodup_eraseDups _, ?_, ?_,
    fun child => (surface child).2⟩
  · intro child mem
    obtain ⟨cause, -, surfaces⟩ := (surface child).1 mem
    exact shows_iff.2 surfaces.is_shown
  · intro child mem
    obtain ⟨cause, followed, surfaces⟩ := (surface child).1 mem
    exact Nat.lt_of_le_of_lt (grounded.le_of_surfaces surfaces) (grounded.followedAt_lt followed)

/-- A hidden record that a reason rests on twice, with one of its values in between. -/
def shared : List Operation :=
  [.text "a", .text "b", .full "both" "1" .builtin 0 [1, 0], .hide 2, .conj "top" [2, 1, 2]]

/-- All records among the operations have their values among their supporters. -/
lemma shared_added : ∀ kind supporters location, .add kind supporters location ∈ shared →
    kind.values ⊆ supporters := by
  intro kind supporters location mem
  simp [shared] at mem

/-- The record is opened once, and its values are listed where it stands first. -/
theorem children_unfold_of_shared :
    (∀ kind supporters location, .add kind supporters location ∈ shared →
      kind.values ⊆ supporters) ∧
    3 < (empty.after shared).size ∧ (empty.after shared).children 3 = .ok [1, 0] ∧
    ∃ children, (empty.after shared).children 3 = .ok children ∧
      (empty.after shared).Unfolds 3 children :=
  ⟨shared_added, by decide, by decide, children_unfold shared shared_added 3 (by decide)⟩

end Graph

end Because
