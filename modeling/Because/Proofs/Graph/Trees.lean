import Because.Proofs.Graph.Unfolding

/-!
# Trees, bounded and whole

What tree an explanation shows is said here without the steps in which it grows: a reason that is
cut off where the depth ends, or a reason with a branch for each of its children. There is one such
tree at most. Children are older than their parent, so that no path has more steps than the number
of the reason that it starts from: a depth that is not smaller cuts nothing off.
-/

namespace Because

/-- The reason that a tree explains. -/
def Tree.reason : Tree → ReasonId
  | .node id _ _ => id

namespace Graph

/-- The tree that explains a reason as far as a depth reaches. -/
inductive Grown (g : Graph) : Option Nat → ReasonId → Tree → Prop where
  | cut {id node} : g.nodes[id]? = some node →
    Grown g (some 0) id (.node id (!node.supporters.isEmpty) [])
  | spread {depth id node branches} : g.nodes[id]? = some node → depth ≠ some 0 →
    g.children id = .ok (branches.map fun branch => branch.2.reason) →
    (∀ branch ∈ branches, branch.1 = label node.calling? branch.2.reason) →
    (∀ branch ∈ branches, Grown g (depth.map (· - 1)) branch.2.reason branch.2) →
    Grown g depth id (.node id false branches)

variable {g : Graph} {id : ReasonId} {node : Node} {depth : Option Nat} {tree : Tree}
  {branches : List (Label × Tree)}

/-- The blocks of branches are those of the trees in them. -/
lemma blocks_eq_map (g : Graph) (branches : List (Label × Tree)) :
    Tree.blocks g branches = branches.map fun branch => branch.1.block (branch.2.lines g) := by
  induction branches with
  | nil => simp only [Tree.blocks, List.map_nil]
  | cons branch rest ih =>
    obtain ⟨label, tree⟩ := branch
    simp only [Tree.blocks, ih, List.map_cons]

/-- A tree that has grown for a reason has the reason at its root. -/
lemma Grown.reason (h : g.Grown depth id tree) : tree.reason = id := by
  cases h <;> rfl

/-- The branches that have been grown for children explain these, each introduced as it is to be. -/
lemma branches_of_mapM {grower : ReasonId → Except GraphError Tree} {calling : Option ReasonId}
    {children : List ReasonId}
    (inside : ∀ child tree, grower child = .ok tree → g.Grown depth child tree)
    (grow : children.mapM (fun child => do
      let tree ← grower child
      return (label calling child, tree)) = .ok branches) :
    branches.map (fun branch => branch.2.reason) = children ∧
      ∀ branch ∈ branches, branch.1 = label calling branch.2.reason ∧
        g.Grown depth branch.2.reason branch.2 := by
  induction children generalizing branches with
  | nil =>
    cases grow
    exact ⟨rfl, List.forall_mem_nil _⟩
  | cons child rest ih =>
    rw [List.mapM_cons] at grow
    obtain ⟨first, introduced, grow⟩ := of_bind_ok grow
    obtain ⟨others, grown, grow⟩ := of_bind_ok grow
    obtain ⟨tree, grows, introduced⟩ := of_bind_ok introduced
    cases introduced
    cases grow
    obtain ⟨reasons, each⟩ := ih grown
    have top := inside child tree grows
    refine ⟨congrArg₂ _ top.reason reasons, List.forall_mem_cons.2 ⟨?_, each⟩⟩
    rw [top.reason]
    exact ⟨rfl, top⟩

/-- What grows in steps is that tree. -/
lemma grown_of_grow {steps : Nat} (grows : g.grow steps depth id = .ok tree) :
    g.Grown depth id tree := by
  induction steps generalizing depth id tree with
  | zero => cases grows
  | succ steps ih =>
    obtain ⟨node, got, grows⟩ := of_bind_ok grows
    have found := get_ok got
    split at grows
    · rename_i ended
      cases grows
      rw [ended]
      exact .cut found
    · rename_i deeper
      obtain ⟨children, listed, grows⟩ := of_bind_ok grows
      obtain ⟨branches, grown, grows⟩ := of_bind_ok grows
      cases grows
      obtain ⟨rfl, each⟩ := branches_of_mapM (fun _ _ => ih) grown
      exact .spread found deeper listed (fun branch mem => (each branch mem).1)
        fun branch mem => (each branch mem).2

/-- The tree that a graph makes for a reason has grown for it. -/
lemma grown_of_tree (is : g.tree id depth = .ok tree) : g.Grown depth id tree :=
  grown_of_grow is

/-- Two lists of branches are the same if they explain the same reasons, and if each branch is the
only one for its reason. -/
lemma branches_ext {others : List (Label × Tree)}
    (reasons : branches.map (fun branch => branch.2.reason) =
      others.map fun branch => branch.2.reason)
    (only : ∀ branch ∈ branches, ∀ other ∈ others, branch.2.reason = other.2.reason →
      branch = other) : branches = others := by
  induction branches generalizing others with
  | nil => exact (List.map_eq_nil_iff.1 reasons.symm).symm
  | cons branch rest ih =>
    cases others with
    | nil => cases reasons
    | cons other others =>
      obtain ⟨first, reasons⟩ := List.cons.inj reasons
      rw [only branch List.mem_cons_self other List.mem_cons_self first, ih reasons]
      intro branch mem other mem'
      exact only branch (List.mem_cons_of_mem _ mem) other (List.mem_cons_of_mem _ mem')

/-- There is one such tree at most. -/
lemma Grown.unique {other : Tree} (h : g.Grown depth id tree) (h' : g.Grown depth id other) :
    tree = other := by
  induction h generalizing other with
  | cut found =>
    cases h' with
    | cut found' =>
      cases found.symm.trans found'
      rfl
    | spread _ deeper => exact absurd rfl deeper
  | @spread depth id node branches found deeper listed labels _ ih =>
    cases h' with
    | cut => exact absurd rfl deeper
    | @spread _ _ node' branches' found' _ listed' labels' below' =>
      cases found.symm.trans found'
      refine congrArg _ (branches_ext (Except.ok.inj (listed.symm.trans listed')) ?_)
      intro branch mem other mem' same
      refine Prod.ext ?_ (ih branch mem (same ▸ below' other mem'))
      rw [labels branch mem, labels' other mem', same]

/-! ## Depths that reach all -/

/-- A reason that rests on nothing has no children. -/
lemma Descending.children_zero (descending : g.Descending) (there : 0 < g.size) :
    g.children 0 = .ok [] := by
  obtain ⟨children, listed, older⟩ := (descending.grounded.explains there).1
  rw [listed, List.eq_nil_iff_forall_not_mem.2 fun child mem => Nat.not_lt_zero _ (older child mem)]

/-- A depth that is not smaller than the number of the reason cuts nothing off. -/
lemma Grown.whole (descending : g.Descending) (h : g.Grown depth id tree)
    (deep : ∀ bound : Nat, depth = some bound → id ≤ bound) : g.Grown none id tree := by
  induction h with
  | @cut id node found =>
    -- The reason is the oldest, and so rests on nothing.
    obtain rfl : id = 0 := Nat.le_zero.1 (deep 0 rfl)
    have none : node.supporters = [] := List.eq_nil_iff_forall_not_mem.2 fun supporter mem =>
      Nat.not_lt_zero _ ((descending.placed 0 node found).older supporter mem)
    rw [none]
    exact .spread found nofun (descending.children_zero (lt_size found)) (List.forall_mem_nil _)
      (List.forall_mem_nil _)
  | @spread depth id node branches found deeper listed labels _ ih =>
    refine .spread found nofun listed labels fun branch mem => ih branch mem ?_
    intro bound is
    obtain ⟨children, listed', older⟩ := (descending.grounded.explains (lt_size found)).1
    have lt : branch.2.reason < id := by
      apply older
      rw [← Except.ok.inj (listed.symm.trans listed')]
      exact List.mem_map_of_mem mem
    obtain ⟨outer, was, rfl⟩ := Option.map_eq_some_iff.1 is
    have le := deep outer was
    exact Nat.le_sub_one_of_lt (Nat.lt_of_lt_of_le lt le)

/-- Whatever operations have made a graph, if all that was recorded in the unrestricted way had its
values among its supporters, every reason has a whole explanation, and its explanation to any depth
that is not smaller than its number is the same text. A number that no reason has is explained at
no depth. -/
theorem deep_explains_whole (operations : List Operation)
    (added : ∀ kind supporters location, .add kind supporters location ∈ operations →
      kind.values ⊆ supporters) :
    let g := empty.after operations
    (∀ id : Nat, id < g.size → ∃ text, g.explainTree id none = .ok text ∧
      ∀ depth : Nat, id ≤ depth → g.explainTree id (some depth) = .ok text) ∧
    ∀ id : Nat, g.size ≤ id → ∀ depth : Option Nat,
      g.explainTree id depth = .error (.unregistered id) := by
  intro g
  have descending : g.Descending := descending_after added
  constructor
  · intro id lt
    obtain ⟨text, whole⟩ := (descending.grounded.explains lt).2 none
    refine ⟨text, whole, fun depth deep => ?_⟩
    obtain ⟨bounded, explains⟩ := (descending.grounded.explains lt).2 (some depth)
    obtain ⟨tree, grows, lines⟩ := of_bind_ok whole
    obtain ⟨other, grows', lines'⟩ := of_bind_ok explains
    have same : other = tree := by
      refine Grown.unique ?_ (grown_of_tree grows)
      refine (grown_of_tree grows').whole descending ?_
      rintro bound ⟨⟩
      exact deep
    rw [explains, ← lines, ← lines', same]
  · intro id missing depth
    have none : g.nodes[id]? = none := Array.getElem?_eq_none missing
    simp only [explainTree, tree, grow, get, none]
    rfl

/-- The newest reason of a graph rests twice on a hidden record, and is explained in the same text
whole and to the depth of its number. -/
theorem deep_explains_whole_of_shared :
    (∀ kind supporters location, .add kind supporters location ∈ shared →
      kind.values ⊆ supporters) ∧
    3 < (empty.after shared).size ∧
    ∃ text, (empty.after shared).explainTree 3 none = .ok text ∧
      (empty.after shared).explainTree 3 (some 3) = .ok text := by
  obtain ⟨text, whole, deep⟩ := (deep_explains_whole shared shared_added).1 3 (by decide)
  exact ⟨shared_added, by decide, text, whole, deep 3 (Nat.le_refl 3)⟩

end Graph

end Because
