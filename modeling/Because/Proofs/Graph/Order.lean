import Because.Graph.Explain
import Because.Proofs.Graph.Walks

/-!
# Ordered graphs

In an ordered graph every reason rests on older ones, also where an explanation follows the values
of a record in place of its supporters. So a walk from a reason only ever meets older reasons: it
ends, it finds all that it looks for, and it is the same in every graph that agrees on them. For
this it is enough that the graph is grounded: what an explanation follows is older.
-/

namespace Because

/-- A kind of reason that rests on nothing. -/
def Kind.IsLeaf : Kind → Prop
  | .text _ | .unknown => True
  | _ => False

/-- A full record rests on what asked for it and then on its values. -/
def Kind.Rests (supporters : List ReasonId) : Kind → Prop
  | .full _ _ calling values => supporters = calling :: values
  | _ => True

/-! ## Computations that agree -/

/-- Two computations succeed with the same result, which satisfies `P`. -/
def Agree {ε α : Type} (P : α → Prop) (r r' : Except ε α) : Prop :=
  ∃ x, r = .ok x ∧ r' = .ok x ∧ P x

namespace Agree

variable {ε α β : Type} {P : α → Prop} {Q : β → Prop}

/-- A result agrees with itself. -/
lemma pure {x : α} (h : P x) : Agree (ε := ε) P (Pure.pure x) (Pure.pure x) := ⟨x, rfl, rfl, h⟩

/-- Computations agree if they begin alike and go on alike from every result that is possible. -/
lemma bind {r r' : Except ε α} {f f' : α → Except ε β} (first : Agree P r r')
    (next : ∀ x, P x → Agree Q (f x) (f' x)) : Agree Q (r >>= f) (r' >>= f') := by
  obtain ⟨x, rfl, rfl, h⟩ := first
  exact next x h

/-- Folds agree if their steps do, as long as `P` holds along them. -/
lemma foldlM {xs : List β} {f f' : α → β → Except ε α}
    (step : ∀ x ∈ xs, ∀ s, P s → Agree P (f s x) (f' s x)) (s : α) (h : P s) :
    Agree P (xs.foldlM f s) (xs.foldlM f' s) := by
  induction xs generalizing s with
  | nil => exact .pure h
  | cons x rest ih =>
    obtain ⟨first, others⟩ := List.forall_mem_cons.1 step
    simp only [List.foldlM_cons]
    exact (first s h).bind fun s' h' => ih others s' h'

/-- Maps over a list agree if they do for each member. -/
lemma mapM {xs : List α} {f f' : α → Except ε β} (each : ∀ x ∈ xs, Agree Q (f x) (f' x)) :
    Agree (fun ys => ∀ y ∈ ys, Q y) (xs.mapM f) (xs.mapM f') := by
  induction xs with
  | nil => exact .pure (List.forall_mem_nil _)
  | cons x rest ih =>
    obtain ⟨first, others⟩ := List.forall_mem_cons.1 each
    simp only [List.mapM_cons]
    refine first.bind fun y hy => (ih others).bind fun ys hys => ?_
    exact .pure (List.forall_mem_cons.2 ⟨hy, hys⟩)

end Agree

namespace Graph

/-! ## Order -/

/-- A reason has the number of its place and rests on older ones. -/
structure Settled (i : Nat) (node : Node) : Prop where
  id : node.id = i
  older : ∀ j : Nat, j ∈ node.supporters → j < i
  rests : node.kind.Rests node.supporters

/-- Every reason has the number of its place and rests on older ones. -/
def Ordered (g : Graph) : Prop := ∀ i node, g.nodes[i]? = some node → Settled i node

/-- All that an explanation follows from a reason is older than it. -/
def Grounded (g : Graph) : Prop :=
  ∀ i node, g.nodes[i]? = some node → ∀ j : Nat, j ∈ node.followed → j < i

/-- Two graphs have the same reasons below a number. -/
def SameBelow (n : Nat) (g g' : Graph) : Prop := ∀ i < n, g'.nodes[i]? = g.nodes[i]?

/-- What an explanation follows is older, whether or not the reason is shown. -/
lemma Settled.followed_lt {i j : Nat} {node : Node} (h : Settled i node)
    (mem : j ∈ node.followed) : j < i := by
  obtain ⟨id, kind, supporters, shown, location⟩ := node
  cases kind with
  | full name value calling values =>
    have rests : supporters = calling :: values := h.rests
    cases shown with
    | true => exact h.older j mem
    | false =>
      -- A hidden record passes on its values only, and these are among its supporters.
      apply h.older j
      rw [rests]
      exact List.mem_cons_of_mem _ mem
  | _ => exact h.older j mem

variable {g g' : Graph} {n : Nat}

/-- In an ordered graph causes are older than what they explain. -/
lemma Ordered.grounded (ordered : g.Ordered) : g.Grounded :=
  fun i node found _ mem => (ordered i node found).followed_lt mem

/-- What holds of all reasons of a graph holds of one that is looked up. -/
lemma get_agree {P : Nat → Node → Prop} (all : ∀ i node, g.nodes[i]? = some node → P i node)
    (size : n ≤ g.size) (same : SameBelow n g g') {id : Nat} (lt : id < n) :
    Agree (P id) (g.get id) (g'.get id) := by
  have lt' : id < g.nodes.size := Nat.lt_of_lt_of_le lt size
  have found : g.nodes[id]? = some g.nodes[id] := Array.getElem?_eq_getElem lt'
  refine ⟨_, ?_, ?_, all id _ found⟩
  · simp only [get, found]
  · simp only [get, same id lt, found]

/-! ## Walks -/

/-- A walk over reasons below `m` lists reasons below `m`, and it needs to be no deeper than `m`:
each opening leads to older reasons. -/
lemma Grounded.walk_agree (grounded : g.Grounded) (size : n ≤ g.size) (same : SameBelow n g g')
    {m k depth depth' : Nat} (hn : m ≤ n) (hk : m ≤ k) (enough : m < depth)
    (enough' : m < depth') {ids : List ReasonId}
    (hi : ∀ id : Nat, id ∈ ids → id < m) {w : Walk} (hw : ∀ id : Nat, id ∈ w.listed → id < k) :
    Agree (fun w' => ∀ id : Nat, id ∈ w'.listed → id < k) (g.walk depth ids w)
      (g'.walk depth' ids w) := by
  -- Each opening lowers the bound `m`, so that neither walk runs out of depth.
  induction depth generalizing m depth' ids w with
  | zero => omega
  | succ depth ih =>
    obtain ⟨depth', rfl⟩ : ∃ d, depth' = d + 1 := ⟨depth' - 1, by omega⟩
    simp only [walk_succ]
    refine .foldlM (fun id mem w hw => ?_) w hw
    have lt := hi id mem
    unfold visit
    refine (get_agree grounded size same (by omega)).bind fun node older => ?_
    split
    · apply Agree.pure
      split
      · exact hw
      · exact List.forall_mem_cons.2 ⟨by omega, hw⟩
    · split
      · exact .pure hw
      · exact ih (m := id) (by omega) (by omega) (by omega) (by omega)
          older hw

/-- The children of a reason are older than it, and they are the same in a graph that agrees on
all reasons up to it. -/
lemma Grounded.children_agree (grounded : g.Grounded) (size : n ≤ g.size)
    (same : SameBelow n g g') (size' : n ≤ g'.size) {id : Nat} (lt : id < n) :
    Agree (fun cs => ∀ child : Nat, child ∈ cs → child < id) (g.children id) (g'.children id) := by
  rw [children_eq_walk, children_eq_walk]
  refine (get_agree grounded size same lt).bind fun node older => ?_
  have walks := grounded.walk_agree size same (m := id) (k := id) (w := {}) (by omega) (by omega)
    (show id < g.size + 1 by omega) (show id < g'.size + 1 by omega) older (List.forall_mem_nil _)
  refine walks.bind fun w hw => .pure fun child mem => ?_
  exact hw child (List.mem_reverse.1 mem)

/-- Children agree in graphs that are the same below a number, and are older. -/
lemma children_agree (ordered : g.Ordered) (size : n ≤ g.size) (same : SameBelow n g g')
    (size' : n ≤ g'.size) {id : Nat} (lt : id < n) :
    Agree (fun cs => ∀ child : Nat, child ∈ cs → child < id) (g.children id) (g'.children id) :=
  ordered.grounded.children_agree size same size' lt

/-! ## Trees -/

/-- A tree is written alike in both graphs. -/
def WrittenAlike (g g' : Graph) (tree : Tree) : Prop := tree.lines g' = tree.lines g

/-- Blocks are written alike if the trees in them are. -/
lemma blocks_alike {branches : List (Label × Tree)}
    (h : ∀ branch ∈ branches, WrittenAlike g g' branch.2) :
    Tree.blocks g' branches = Tree.blocks g branches := by
  induction branches with
  | nil => simp only [Tree.blocks]
  | cons branch rest ih =>
    obtain ⟨first, others⟩ := List.forall_mem_cons.1 h
    obtain ⟨label, tree⟩ := branch
    simp only [Tree.blocks, ih others]
    rw [first]

/-- The first line of a reason is the same where the reason is. -/
lemma heading_alike (same : SameBelow n g g') {id : Nat} (lt : id < n) (continued : Bool) :
    g'.heading id continued = g.heading id continued := by
  simp only [heading, listed, same id lt]

/-- A tree is written alike if its reason is the same and its branches are written alike. -/
lemma node_alike (same : SameBelow n g g') {id : Nat} (lt : id < n) (more : Bool)
    {branches : List (Label × Tree)} (h : ∀ branch ∈ branches, WrittenAlike g g' branch.2) :
    WrittenAlike g g' (.node id more branches) := by
  simp only [WrittenAlike, Tree.lines, heading_alike same lt, blocks_alike h]

/-- Steps suffice for a tree if there is one more of them than there are older reasons, or than
the tree may be deep. -/
def Enough (steps : Nat) (depth : Option Nat) (id : Nat) : Prop :=
  id < steps ∨ ∃ bound, depth = some bound ∧ bound < steps

/-- The steps that are left suffice for a child. -/
lemma Enough.child {steps : Nat} {depth : Option Nat} {id child : Nat}
    (h : Enough (steps + 1) depth id) (deeper : depth ≠ some 0) (lt : child < id) :
    Enough steps (depth.map (· - 1)) child := by
  obtain h | ⟨bound, rfl, h⟩ := h
  · exact .inl (by omega)
  · have : bound ≠ 0 := fun zero => deeper (congrArg some zero)
    exact .inr ⟨bound - 1, rfl, by omega⟩

/-- Steps that suffice for a tree are not used up. -/
lemma Enough.pos {steps : Nat} {depth : Option Nat} {id : Nat} (h : Enough steps depth id) :
    ∃ k, steps = k + 1 := by
  obtain h | ⟨bound, -, h⟩ := h
  all_goals exact ⟨steps - 1, by omega⟩

/-- With enough steps a tree grows, and it is the same in both graphs. -/
lemma Grounded.grow_agree (grounded : g.Grounded) (size : n ≤ g.size) (same : SameBelow n g g')
    (size' : n ≤ g'.size) {steps steps' : Nat} {depth : Option Nat} {id : Nat} (lt : id < n)
    (enough : Enough steps depth id) (enough' : Enough steps' depth id) :
    Agree (WrittenAlike g g') (g.grow steps depth id) (g'.grow steps' depth id) := by
  -- Children are older than their parent, and the steps that are left suffice for them.
  induction id using Nat.strongRecOn generalizing steps steps' depth with
  | ind id ih =>
    obtain ⟨steps, rfl⟩ := enough.pos
    obtain ⟨steps', rfl⟩ := enough'.pos
    unfold grow
    refine (get_agree grounded size same lt).bind fun node _ => ?_
    split
    · exact .pure (node_alike same lt _ (List.forall_mem_nil _))
    · rename_i deeper
      refine (grounded.children_agree size same size' lt).bind fun children older => ?_
      have branches : Agree (fun bs => ∀ branch ∈ bs, WrittenAlike g g' branch.2)
          (children.mapM fun child => do
            let tree ← g.grow steps (depth.map (· - 1)) child
            return (label node.calling? child, tree))
          (children.mapM fun child => do
            let tree ← g'.grow steps' (depth.map (· - 1)) child
            return (label node.calling? child, tree)) := by
        refine .mapM fun child mem => ?_
        have earlier := older child mem
        have tree := ih child earlier (by omega) (enough.child deeper earlier)
          (enough'.child deeper earlier)
        exact tree.bind fun tree alike => .pure alike
      exact branches.bind fun branches alike => .pure (node_alike same lt _ alike)

/-! ## Explanations -/

/-- The steps that are taken for a tree of bounded or unbounded depth suffice. -/
lemma enough_getD {size : Nat} (depth : Option Nat) {id : Nat} (lt : id < size) :
    Enough (depth.getD size + 1) depth id := by
  cases depth with
  | none => exact .inl (Nat.lt_succ_of_lt lt)
  | some bound => exact .inr ⟨bound, rfl, Nat.lt_succ_self bound⟩

/-- Two computations agree, whatever their result. -/
abbrev AgreeOn {ε α : Type} (r r' : Except ε α) : Prop := Agree (fun _ => True) r r'

/-- Explanations agree in graphs that are the same below a number, if causes are older in the first.
-/
lemma Grounded.explainTree_agree (grounded : g.Grounded) (size : n ≤ g.size)
    (same : SameBelow n g g') (size' : n ≤ g'.size) {id : Nat} (lt : id < n)
    (depth : Option Nat) : AgreeOn (g.explainTree id depth) (g'.explainTree id depth) := by
  unfold explainTree tree
  have trees := grounded.grow_agree size same size' lt
    (enough_getD depth (show id < g.size by omega)) (enough_getD depth (show id < g'.size by omega))
  refine trees.bind fun tree alike => ?_
  rw [WrittenAlike] at alike
  rw [alike]
  exact .pure trivial

/-- Explanations to every depth agree in graphs that are the same below a number. -/
lemma explainTree_agree (ordered : g.Ordered) (size : n ≤ g.size) (same : SameBelow n g g')
    (size' : n ≤ g'.size) {id : Nat} (lt : id < n) (depth : Option Nat) :
    AgreeOn (g.explainTree id depth) (g'.explainTree id depth) :=
  ordered.grounded.explainTree_agree size same size' lt depth

/-- What is said of the direct supporters of a reason is the same in both graphs. -/
lemma supporters_agree (ordered : g.Ordered) (size : n ≤ g.size) (same : SameBelow n g g')
    {id : Nat} {node : Node} (lt : id < n) (settled : Settled id node) (say : Node → String) :
    AgreeOn (node.supporters.mapM fun supporter => return say (← g.get supporter))
      (node.supporters.mapM fun supporter => return say (← g'.get supporter)) := by
  have each : ∀ supporter ∈ node.supporters,
      AgreeOn (do return say (← g.get supporter)) (do return say (← g'.get supporter)) := by
    intro supporter mem
    have earlier := settled.older supporter mem
    exact (get_agree ordered size same (by omega)).bind fun _ _ => .pure trivial
  obtain ⟨texts, found, found', -⟩ := Agree.mapM each
  exact ⟨texts, found, found', trivial⟩

/-- Whole explanations agree in graphs that are the same below a number. -/
lemma explain_agree (ordered : g.Ordered) (size : n ≤ g.size) (same : SameBelow n g g')
    {id : Nat} (lt : id < n) : AgreeOn (g.explain id) (g'.explain id) := by
  unfold explain
  refine (get_agree ordered size same lt).bind fun node settled => ?_
  split
  · exact .pure trivial
  · exact (supporters_agree ordered size same lt settled _).bind fun _ _ => .pure trivial

/-- Explanations to one level agree in graphs that are the same below a number. -/
lemma explainOneLevel_agree (ordered : g.Ordered) (size : n ≤ g.size) (same : SameBelow n g g')
    {id : Nat} (lt : id < n) :
    AgreeOn (g.explainOneLevel id) (g'.explainOneLevel id) := by
  unfold explainOneLevel
  refine (get_agree ordered size same lt).bind fun node settled => ?_
  refine (supporters_agree ordered size same lt settled _).bind fun causes _ => ?_
  rw [heading_alike same lt]
  exact .pure trivial

end Graph

end Because
