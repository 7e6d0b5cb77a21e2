import Because.Proofs.Explained
import Because.Proofs.Graph.Trees
import Because.Proofs.Moments

/-!
# How explanations introduce causes

A record was asked for because of one reason, and is what it is because of others. Its explanation
lists what surfaces from all of them, and introduces one child as why the record was asked for: the
one that is itself the reason for which it was asked. If that reason is hidden, no child is
introduced so, not even those that surface from it; these are introduced as why the value is what it
is.
-/

namespace Because

/-- The reason at the root, whether it is cut off, and how the children are introduced. -/
def Tree.outline : Tree → ReasonId × Bool × List (Label × ReasonId)
  | .node id more branches => (id, more, branches.map fun branch => (branch.1, branch.2.reason))

namespace Graph

variable {g : Graph} {id : ReasonId} {node : Node} {steps : Nat} {depth : Option Nat}
  {tree : Tree} {branches : List (Label × Tree)}

/-! ## Trees -/

/-- Where the depth does not end, a tree has one branch for each child. -/
lemma grow_branches (found : g.nodes[id]? = some node) (deeper : depth ≠ some 0)
    (grows : g.grow steps depth id = .ok tree) :
    ∃ branches children, tree = .node id false branches ∧ g.children id = .ok children ∧
      branches.map (fun branch => branch.2.reason) = children ∧
      ∀ branch ∈ branches, branch.1 = label node.calling? branch.2.reason := by
  cases grown_of_grow grows with
  | cut => exact absurd rfl deeper
  | spread found' _ listed labels =>
    cases found.symm.trans found'
    exact ⟨_, _, rfl, listed, rfl, labels⟩

/-! ## Records -/

/-- How the explanation of a record, asked for because of `calling` and being what it is because of
`values`, lists and introduces the causes. -/
structure Introduces (g : Graph) (id calling : ReasonId) (values : List ReasonId)
    (depth : Option Nat) (branches : List (Label × Tree)) : Prop where
  text : g.explainTree id depth = .ok ("\n".intercalate (g.heading id (!branches.isEmpty) ++
    joinBlocks (branches.map fun branch => branch.1.block (branch.2.lines g))))
  lists : ∀ child, child ∈ branches.map (fun branch => branch.2.reason) ↔
    g.Surfaces calling child ∨ g.SurfacesFrom values child
  /-- What does not surface from the reason for which the record was asked is never introduced as
  why it was asked for. -/
  holds : ∀ branch ∈ branches, ¬ g.Surfaces calling branch.2.reason → branch.1 = .holds
  /-- A shown reason for which the record was asked is introduced as such. -/
  called : g.Shown calling → ∀ branch ∈ branches,
    g.Surfaces calling branch.2.reason → branch.1 = .called
  /-- What surfaces from a hidden one is not. -/
  passedOver : ¬ g.Shown calling → ∀ branch ∈ branches, branch.1 = .holds

/-- The explanations of shown records list and introduce causes so, except where the depth ends. -/
def IntroducesCauses (g : Graph) : Prop :=
  ∀ (id : ReasonId) (node : Node) (name value : String) (calling : ReasonId)
    (values : List ReasonId) (depth : Option Nat), g.nodes[id]? = some node →
    node.kind = .full name value calling values → node.shown = true → depth ≠ some 0 →
    ∃ branches, g.Introduces id calling values depth branches

/-- What the explanation of a shown record follows. -/
lemma Settled.followed_eq {name value : String} {calling : ReasonId} {values : List ReasonId}
    (settled : Settled id node) (record : node.kind = .full name value calling values)
    (shown : node.shown = true) : node.followed = calling :: values := by
  have rests := settled.rests
  rw [record] at rests
  unfold Node.followed
  rw [record]
  dsimp only
  rw [if_pos shown]
  exact rests

/-- In an ordered graph they do. -/
lemma Ordered.introducesCauses (ordered : g.Ordered) : g.IntroducesCauses := by
  intro id node name value calling values depth found record shown deeper
  have lt : Nat.lt id g.size := (Array.getElem?_eq_some_iff.1 found).1
  obtain ⟨text, explains⟩ := (ordered.grounded.explains lt).2 depth
  obtain ⟨tree, grows, lines⟩ := of_bind_ok explains
  obtain ⟨branches, children, rfl, listed, reasons, labels⟩ := grow_branches found deeper grows
  have lists (child : ReasonId) : child ∈ branches.map (fun branch => branch.2.reason) ↔
      g.Surfaces calling child ∨ g.SurfacesFrom values child := by
    rw [reasons, ordered.grounded.mem_children_iff found listed,
      (ordered id node found).followed_eq record shown]
    simp only [SurfacesFrom, List.mem_cons, exists_eq_or_imp]
  -- A child is itself the reason for which the record was asked, or it is not.
  have introduced (branch : Label × Tree) (mem : branch ∈ branches) :
      branch.1 = if branch.2.reason = calling then .called else .holds := by
    have labelled := labels branch mem
    simp only [label, Node.calling?, record] at labelled
    exact labelled
  have surfaced (branch : Label × Tree) (mem : branch ∈ branches) : g.Shown branch.2.reason := by
    obtain surfaces | ⟨_, -, surfaces⟩ := (lists _).1 (List.mem_map_of_mem mem)
    · exact surfaces.is_shown
    · exact surfaces.is_shown
  refine ⟨branches, ?_, lists, ?_, ?_, ?_⟩
  · rw [explains, ← blocks_eq_map]
    cases lines
    simp only [Tree.lines, Bool.false_eq_true, if_false]
  · intro branch mem apart
    rw [introduced branch mem, if_neg]
    intro same
    refine apart ?_
    rw [same]
    exact .shown (same ▸ surfaced branch mem)
  · intro shown branch mem surfaces
    rw [introduced branch mem, if_pos (surfaces.eq_of_shown shown)]
  · intro hidden branch mem
    rw [introduced branch mem, if_neg]
    intro same
    exact hidden (same ▸ surfaced branch mem)

end Graph

namespace Session

/-- In every session that can come about, and at every moment of every run in it, the explanation of
a shown record lists what surfaces from the reason for which it was asked and from the reasons why
its value is what it is, and nothing else. What surfaces from the latter only is introduced as why
the value is what it is. If the former is shown, it is introduced as why the record was asked for;
if it is hidden, what surfaces from it is not told apart from the rest. -/
theorem Reachable.introduces_causes {s : Session} (h : s.Reachable) (steps : Nat)
    (program : Program) : s.graph.IntroducesCauses ∧
      s.Throughout steps program fun _ now => now.graph.IntroducesCauses := by
  refine ⟨h.sound.ordered.introducesCauses, ?_⟩
  refine (h.sound.throughout steps program).mono fun moment now sound => ?_
  exact sound.1.ordered.introducesCauses

/-- A program that assigns to a variable because two literals are the same. -/
def conditional : Program :=
  let one : Expr := .const .builtin (.int 1)
  [.ifElse .builtin (.eq .builtin one one)
    [.declare .builtin "x" (.const .builtin (.int 2))] []]

/-- A new session in which the program runs. -/
theorem Reachable.introduces_causes_of_start :
    (Session.start {} {}).Reachable ∧ (Session.start {} {}).graph.IntroducesCauses ∧
      (Session.start {} {}).Throughout 8 conditional fun _ now => now.graph.IntroducesCauses :=
  have reachable := Reachable.start {} {}
  ⟨reachable, reachable.introduces_causes 8 conditional⟩

/-- The variable gets its value because of a hidden comparison. The statement surfaces from that and
not from why the value is what it is, and is introduced as why the value is what it is. -/
theorem conditional_misleads : ∃ s, (start {} {}).LeadsTo s ∧
    s.graph.nodes[36]?.map (fun node => (node.kind, node.shown)) =
      some (.full "x" "2" 33 [35], true) ∧
    s.graph.Surfaces 33 26 ∧ ¬ s.graph.SurfacesFrom [35] 26 ∧
    ∃ branches, s.graph.tree 36 (some 1) = .ok (.node 36 false branches) ∧
      branches.map (fun branch => (branch.1, branch.2.reason)) =
        [(.holds, 26), (.holds, 31), (.holds, 35)] := by
  have ran : (Because.runProgram (.within 8) conditional (start {} {})).session?.isSome := by
    decide +kernel
  obtain ⟨s, left⟩ := Option.isSome_iff_exists.1 ran
  have same : s = ((Because.runProgram (.within 8) conditional
      (start {} {})).session?.getD (start {} {})) := by
    rw [left]
    rfl
  -- The session is written as what the program leaves, so that its nodes can be computed.
  have record : s.graph.nodes[36]?.map (fun node => (node.kind, node.shown)) =
      some (.full "x" "2" 33 [35], true) := by
    rw [same]
    decide +kernel
  have compared : s.graph.nodes[33]?.map (fun node => (node.followed, node.shown)) =
      some ([26, 31], false) := by
    rw [same]
    decide +kernel
  have statement : s.graph.nodes[26]?.map Node.shown = some true := by
    rw [same]
    decide +kernel
  have value : s.graph.nodes[35]?.map Node.shown = some true := by
    rw [same]
    decide +kernel
  have tree : (s.graph.tree 36 (some 1)).toOption.map Tree.outline =
      some (36, false, [(.holds, 26), (.holds, 31), (.holds, 35)]) := by
    rw [same]
    decide +kernel
  refine ⟨s, ⟨8, conditional, left⟩, record, ?_, ?_, ?_⟩
  · obtain ⟨node, found, is⟩ := Option.map_eq_some_iff.1 compared
    obtain ⟨cause, there, shown⟩ := Option.map_eq_some_iff.1 statement
    obtain ⟨passes, hidden⟩ := Prod.mk.inj is
    refine .hidden found hidden ?_ (.shown ⟨cause, there, shown⟩)
    rw [passes]
    exact List.mem_cons_self
  · rintro ⟨id, mem, surfaces⟩
    rw [List.mem_singleton.1 mem] at surfaces
    obtain ⟨node, found, shown⟩ := Option.map_eq_some_iff.1 value
    cases surfaces.eq_of_shown ⟨node, found, shown⟩
  · obtain ⟨⟨id, more, branches⟩, grown, outline⟩ := Option.map_eq_some_iff.1 tree
    obtain ⟨rfl, rfl, introduced⟩ : id = 36 ∧ more = false ∧
        branches.map (fun branch => (branch.1, branch.2.reason)) =
          [(.holds, 26), (.holds, 31), (.holds, 35)] := by
      simpa only [Tree.outline, Prod.mk.injEq] using outline
    refine ⟨branches, ?_, introduced⟩
    cases grows : s.graph.tree 36 (some 1) with
    | error cause =>
      rw [grows] at grown
      cases grown
    | ok other =>
      rw [grows] at grown
      cases grown
      rfl

end Session

end Because
