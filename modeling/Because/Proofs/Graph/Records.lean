import Because.Proofs.Graph.History

/-!
# Records that look ahead

A record carries the numbers of its values in its kind, and an explanation follows them in place of
its supporters once the record is hidden. Only the supporters are looked at when a reason is
recorded. So a record may name values that are younger than itself, or that do not exist; hidden,
it leads an explanation astray. Where no hidden record does so, every reason is explained.
-/

namespace Because

/-- The values of a record. -/
def Kind.values : Kind → List ReasonId
  | .full _ _ _ values => values
  | _ => []

/-- What an explanation follows from a reason that is a hidden record, and from all others. -/
lemma Node.mem_followed {node : Node} {j : ReasonId} (mem : j ∈ node.followed) :
    j ∈ node.supporters ∨ node.shown = false ∧ j ∈ node.kind.values := by
  obtain ⟨id, kind, supporters, shown, location⟩ := node
  cases kind with
  | full name value calling values =>
    cases shown with
    | true => exact .inl mem
    | false => exact .inr ⟨rfl, mem⟩
  | _ => exact .inl mem

/-- A hidden record is followed to its values. -/
lemma Node.followed_of_hidden {node : Node} {j : ReasonId} (hidden : node.shown = false)
    (mem : j ∈ node.kind.values) : j ∈ node.followed := by
  obtain ⟨id, kind, supporters, shown, location⟩ := node
  obtain rfl : shown = false := hidden
  cases kind with
  | full => exact mem
  | _ => cases mem

namespace Graph

variable {g : Graph}

/-- An operation that records something with values does so with all of them as supporters. -/
def Operation.Backed (operation : Operation) : Prop :=
  ∀ kind supporters location, operation.request? = some (kind, supporters, location) →
    kind.values ⊆ supporters

/-- Only the unrestricted way of recording can leave values out. -/
lemma Operation.backed_of_add {operation : Operation}
    (h : ∀ kind supporters location, operation = .add kind supporters location →
      kind.values ⊆ supporters) : operation.Backed := by
  intro kind supporters location asked
  cases operation with
  | add =>
    cases asked
    exact h _ _ _ rfl
  | hide => cases asked
  | full =>
    cases asked
    exact List.subset_cons_self _ _
  | _ =>
    cases asked
    exact List.nil_subset _

/-- Every record has its values among its supporters. -/
def Backed (g : Graph) : Prop :=
  ∀ (i : Nat) (node : Node), g.nodes[i]? = some node → node.kind.values ⊆ node.supporters

/-- In the empty graph nothing lacks a supporter. -/
lemma Backed.empty : Backed .empty := by
  intro i node found
  simp [Graph.empty] at found

/-- An operation that gives a record its values as supporters keeps all values supported. -/
lemma Backed.run (backed : g.Backed) {operation : Operation} (h : operation.Backed) :
    (operation.run g).2.Backed := by
  intro i node found
  obtain ⟨kind, supporters, location, asked, -, runs⟩ | ⟨id, -, -, runs⟩ | ⟨-, cause, runs⟩ :=
    run_cases g operation
  · simp only [runs, push, Array.getElem?_push] at found
    split at found
    · cases found
      exact h _ _ _ asked
    · exact backed i node found
  · simp only [runs, hideAt, Array.getElem?_modify] at found
    split at found
    · obtain ⟨old, was, rfl⟩ := Option.map_eq_some_iff.1 found
      exact backed i old was
    · exact backed i node found
  · rw [runs] at found
    exact backed i node found

/-- Operations that give records their values as supporters keep all values supported. -/
lemma Backed.after (backed : g.Backed) {operations : List Operation}
    (h : ∀ operation ∈ operations, operation.Backed) : (g.after operations).Backed := by
  induction operations generalizing g with
  | nil => exact backed
  | cons operation rest ih =>
    obtain ⟨first, others⟩ := List.forall_mem_cons.1 h
    exact ih (backed.run first) others

/-- Reasons stand at their numbers and rest on older ones, and explanations follow older ones. -/
structure Descending (g : Graph) : Prop where
  placed : ∀ (i : Nat) (node : Node), g.nodes[i]? = some node → Placed i node
  grounded : g.Grounded

/-- Whatever operations have made a graph, it is descending if all that was recorded in the
unrestricted way had its values among its supporters. -/
lemma descending_after {operations : List Operation}
    (added : ∀ kind supporters location, .add kind supporters location ∈ operations →
      kind.values ⊆ supporters) : (empty.after operations).Descending := by
  have placed (i : Nat) (node : Node) (found : (empty.after operations).nodes[i]? = some node) :
      Placed i node :=
    placed_after (fun i node found => by simp [empty] at found) operations found
  refine ⟨placed, fun i node found j mem => ?_⟩
  have backed : ∀ operation ∈ operations, operation.Backed := by
    intro operation mem
    apply Operation.backed_of_add
    rintro kind supporters location rfl
    exact added kind supporters location mem
  have values := Backed.empty.after backed i node found
  obtain mem | ⟨-, mem⟩ := Node.mem_followed mem
  · exact (placed i node found).older j mem
  · exact (placed i node found).older j (values mem)

/-- In a grounded graph every reason has children, all of them older, and explanations to every
depth and without bound. -/
lemma Grounded.explains (grounded : g.Grounded) {id : Nat} (lt : id < g.size) :
    (∃ children, g.children id = .ok children ∧ ∀ child : Nat, child ∈ children → child < id) ∧
      ∀ depth, ∃ text, g.explainTree id depth = .ok text := by
  constructor
  · obtain ⟨children, found, -, older⟩ := grounded.children_agree (Nat.le_refl _) (.refl _ _)
      (Nat.le_refl _) lt
    exact ⟨children, found, older⟩
  · intro depth
    obtain ⟨text, found, -, -⟩ := grounded.explainTree_agree (Nat.le_refl _) (.refl _ _)
      (Nat.le_refl _) lt depth
    exact ⟨text, found⟩

/-- Whatever operations a graph has seen, its explanations follow older reasons only, exactly if
its hidden records have older values; then every reason has its children and its explanations. It
is so if all that was recorded in the unrestricted way had its values among its supporters. -/
theorem history_grounded_iff (operations : List Operation) :
    let g := empty.after operations
    (g.Grounded ↔ ∀ (i : Nat) (node : Node), g.nodes[i]? = some node → node.shown = false →
      ∀ j : Nat, j ∈ node.kind.values → j < i) ∧
    (g.Grounded → ∀ id : Nat, id < g.size →
      (∃ children, g.children id = .ok children ∧ ∀ child : Nat, child ∈ children → child < id) ∧
        ∀ depth, ∃ text, g.explainTree id depth = .ok text) ∧
    ((∀ kind supporters location, .add kind supporters location ∈ operations →
      kind.values ⊆ supporters) → g.Grounded) := by
  intro g
  have placed (i : Nat) (node : Node) (found : g.nodes[i]? = some node) : Placed i node :=
    placed_after (fun i node found => by simp [empty] at found) operations found
  refine ⟨⟨?_, ?_⟩, fun grounded id lt => grounded.explains lt,
    fun added => (descending_after added).grounded⟩
  · intro grounded i node found hidden j mem
    exact grounded i node found j (Node.followed_of_hidden hidden mem)
  · intro older i node found j mem
    obtain mem | ⟨hidden, mem⟩ := Node.mem_followed mem
    · exact (placed i node found).older j mem
    · exact older i node found hidden j mem

/-- A record that rests on an older reason, but has a value that is recorded only later. -/
def lookingAhead : List Operation :=
  [.text "a", .add (.full "x" "1" 0 [2]) [0] none, .hide 1, .text "later"]

/-- Nothing refuses a record that looks ahead, and its explanation leads to a younger reason; if
that reason rests on the record in turn, the explanation has no end. -/
theorem lookingAhead_not_grounded :
    ¬ (empty.after lookingAhead).Grounded ∧
    (empty.after lookingAhead).children 1 = .ok [2] ∧
    (empty.after [.text "a", .add (.full "x" "1" 0 [2]) [0] none, .hide 1,
      .conj "later" [1]]).explainTree 1 none = .error (.endless 2) ∧
    (empty.after [.text "a", .add (.full "x" "1" 0 [2]) [0] none, .hide 1]).children 1 =
      .error (.unregistered 2) := by
  refine ⟨?_, by decide, by decide, by decide⟩
  intro grounded
  have younger : ¬ (2 < 1) := by decide
  exact younger (grounded 1 _ rfl 2 (by decide))

end Graph

end Because
