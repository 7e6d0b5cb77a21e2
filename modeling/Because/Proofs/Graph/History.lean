import Because.Proofs.Graph.Growth

/-!
# Histories of graphs

A graph is what operations make of the empty one, in any order and with any arguments; those that
fail leave it alone. Whatever its history, its reasons stand at their numbers and rest on older
ones, and later operations change nothing of them, except that they may hide them.
-/

namespace Because

namespace Graph

/-- What may be asked of a graph. -/
inductive Operation where
  | text (message : String)
  | unknown
  | conj (description : String) (supporters : List ReasonId)
  | conjAt (description : String) (supporters : List ReasonId) (location : Location)
  | equal (item value : String) (supporter : ReasonId)
  | full (name value : String) (location : Location) (calling : ReasonId)
    (values : List ReasonId)
  /-- A reason of any kind, whatever numbers the kind itself carries. -/
  | add (kind : Kind) (supporters : List ReasonId) (location : Option Location)
  | hide (id : ReasonId)
  deriving DecidableEq

/-- The answer to an operation, with the number of the reason that it has recorded. -/
abbrev Answer := Except GraphError (Option ReasonId)

/-- The answer to a record, and the graph that it leaves. -/
def settle (g : Graph) : Except GraphError (ReasonId × Graph) → Answer × Graph
  | .ok (id, g') => (.ok (some id), g')
  | .error cause => (.error cause, g)

namespace Operation

/-- Carry out an operation. -/
def run (g : Graph) : Operation → Answer × Graph
  | text message => g.settle (.ok (g.text message))
  | unknown => g.settle (.ok g.unknown)
  | conj description supporters => g.settle (g.conj description supporters)
  | conjAt description supporters location =>
    g.settle (g.conjAt description supporters location)
  | equal item value supporter => g.settle (g.equal item value supporter)
  | full name value location calling values =>
    g.settle (g.full name value location calling values)
  | add kind supporters location => g.settle (g.add kind supporters location)
  | hide id =>
    match g.hide id with
    | .ok g' => (.ok none, g')
    | .error cause => (.error cause, g)

/-- The reason that an operation asks to record: its kind, its supporters and its location. -/
def request? : Operation → Option (Kind × List ReasonId × Option Location)
  | text message => some (.text message, [], none)
  | unknown => some (.unknown, [], none)
  | conj description supporters => some (.conj description, supporters, none)
  | conjAt description supporters location => some (.conj description, supporters, some location)
  | equal item value supporter => some (.equal item value, [supporter], none)
  | full name value location calling values =>
    some (.full name value calling values, calling :: values, some location)
  | add kind supporters location => some (kind, supporters, location)
  | hide _ => none

end Operation

/-- The graph after several operations. -/
def after (g : Graph) (operations : List Operation) : Graph :=
  operations.foldl (fun g operation => (operation.run g).2) g

variable {g : Graph} {operation : Operation} {kind : Kind} {supporters : List ReasonId}
  {location : Option Location}

/-- Operations are carried out one after the other. -/
lemma after_cons (operation : Operation) (rest : List Operation) :
    g.after (operation :: rest) = (operation.run g).2.after rest := rfl

/-! ## What an operation does -/

/-- Whatever asks to record a reason does so by the one way of recording. -/
lemma run_request (asked : operation.request? = some (kind, supporters, location)) :
    operation.run g = g.settle (g.add kind supporters location) := by
  cases operation with
  | hide => cases asked
  | _ =>
    cases asked
    rfl

/-- A reason is recorded if it rests on recorded ones. -/
lemma run_older (asked : operation.request? = some (kind, supporters, location))
    (older : ∀ j : Nat, j ∈ supporters → j < g.size) :
    operation.run g =
      (.ok (some g.size), g.push kind supporters (g.locate supporters location)) := by
  rw [run_request asked, add_ok older]
  rfl

/-- A reason that rests on a missing one is refused, because of the first of these. -/
lemma run_late (asked : operation.request? = some (kind, supporters, location))
    {before rest : List ReasonId} {late : Nat} (split : supporters = before ++ late :: rest)
    (older : ∀ j : Nat, j ∈ before → j < g.size) (missing : g.size ≤ late) :
    operation.run g = (.error (.lateSupporter late g.size), g) := by
  have passed : before.find? (fun supporter => g.size ≤ supporter) = none := by
    simp only [List.find?_eq_none, decide_eq_true_eq, Nat.not_le]
    exact older
  have first : g.firstLate? supporters = some late := by
    simp only [firstLate?, split, List.find?_append, passed, List.find?_cons, missing,
      decide_true, Option.none_or]
  rw [run_request asked]
  simp only [add, first, settle]

/-- Either a list of supporters is recorded, or one of them is the first that is not. -/
lemma older_or_late (g : Graph) (supporters : List ReasonId) :
    (∀ j : Nat, j ∈ supporters → j < g.size) ∨
      ∃ before late rest, supporters = before ++ late :: rest ∧
        (∀ j : Nat, j ∈ before → j < g.size) ∧ g.size ≤ late := by
  induction supporters with
  | nil => exact .inl nofun
  | cons supporter others ih =>
    by_cases lt : supporter < g.size
    · obtain older | ⟨before, late, rest, rfl, older, missing⟩ := ih
      · exact .inl (List.forall_mem_cons.2 ⟨lt, older⟩)
      · exact .inr ⟨supporter :: before, late, rest, rfl, List.forall_mem_cons.2 ⟨lt, older⟩,
          missing⟩
    · exact .inr ⟨[], supporter, others, rfl, nofun, Nat.not_lt.1 lt⟩

/-- All that an operation can do to a graph: record a reason that rests on recorded ones, hide
one that is there, or nothing. -/
lemma run_cases (g : Graph) (operation : Operation) :
    (∃ kind supporters location, operation.request? = some (kind, supporters, location) ∧
      (∀ j : Nat, j ∈ supporters → j < g.size) ∧
      operation.run g =
        (.ok (some g.size), g.push kind supporters (g.locate supporters location))) ∨
    (∃ id, operation = .hide id ∧ id < g.size ∧ operation.run g = (.ok none, g.hideAt id)) ∨
    ((∀ id, operation = .hide id → g.size ≤ id) ∧
      ∃ cause, operation.run g = (.error cause, g)) := by
  cases e : operation.request? with
  | none =>
    -- Only hiding asks for no record.
    cases operation with
    | hide id =>
      by_cases lt : id < g.size
      · refine .inr (.inl ⟨id, rfl, lt, ?_⟩)
        simp only [Operation.run, hide_ok lt]
      · refine .inr (.inr ⟨?_, .unregistered id, ?_⟩)
        · rintro other ⟨⟩
          exact Nat.not_lt.1 lt
        · simp only [Operation.run, hide, lt, if_false]
    | _ => cases e
  | some request =>
    obtain ⟨kind, supporters, location⟩ := request
    obtain older | ⟨before, late, rest, split, older, missing⟩ := older_or_late g supporters
    · exact .inl ⟨kind, supporters, location, rfl, older, run_older e older⟩
    · refine .inr (.inr ⟨?_, _, run_late e split older missing⟩)
      rintro id rfl
      cases e

/-! ## Later operations -/

/-- No operation takes a reason away. -/
lemma size_run (g : Graph) (operation : Operation) : g.size ≤ (operation.run g).2.size := by
  obtain ⟨kind, supporters, location, -, -, runs⟩ | ⟨id, -, -, runs⟩ | ⟨-, cause, runs⟩ :=
    run_cases g operation
  · rw [runs, size_push]
    exact Nat.le_succ _
  · exact Nat.le_of_eq (by rw [runs, size_hideAt])
  · exact Nat.le_of_eq (by rw [runs])

/-- No operations take a reason away. -/
lemma size_after (g : Graph) (operations : List Operation) :
    g.size ≤ (g.after operations).size := by
  induction operations generalizing g with
  | nil => exact Nat.le_refl _
  | cons operation rest ih =>
    rw [after_cons]
    exact Nat.le_trans (size_run g operation) (ih _)

/-- Of a reason that is there, an operation changes only whether it is shown. -/
lemma nodes_run {i : Nat} {node : Node} (found : g.nodes[i]? = some node)
    (operation : Operation) : (operation.run g).2.nodes[i]? =
      some { node with shown := node.shown && decide (operation ≠ .hide i) } := by
  obtain ⟨kind, supporters, location, asked, -, runs⟩ | ⟨id, rfl, -, runs⟩ |
    ⟨refused, cause, runs⟩ := run_cases g operation
  · have other : operation ≠ .hide i := by
      rintro rfl
      cases asked
    have old : i ≠ g.nodes.size := Nat.ne_of_lt (lt_size found)
    simp [runs, push, Array.getElem?_push, old, found, other]
  · by_cases same : id = i
    · subst same
      simp [runs, hideAt, Array.getElem?_modify, found]
    · simp [runs, hideAt, Array.getElem?_modify, found, same]
  · have other : operation ≠ .hide i := by
      intro hides
      exact Nat.not_lt.2 (refused i hides) (lt_size found)
    simp [runs, found, other]

/-- Of a reason that is there, later operations change only whether it is shown: it is hidden if
one of them hides it, and never shown again. -/
lemma nodes_after {i : Nat} {node : Node} (found : g.nodes[i]? = some node)
    (later : List Operation) : (g.after later).nodes[i]? =
      some { node with shown := node.shown && decide (Operation.hide i ∉ later) } := by
  induction later generalizing g node with
  | nil => simp [after, found]
  | cons operation rest ih =>
    rw [after_cons, ih (nodes_run found operation)]
    simp [Bool.and_assoc, eq_comm]

/-! ## Order -/

/-- A reason has the number of its place and rests on older ones. -/
structure Placed (i : Nat) (node : Node) : Prop where
  id : node.id = i
  older : ∀ j : Nat, j ∈ node.supporters → j < i

/-- An operation puts reasons where their numbers say, resting on older ones, if all others are so.
-/
lemma placed_run (placed : ∀ i node, g.nodes[i]? = some node → Placed i node)
    (operation : Operation) {i : Nat} {node : Node}
    (found : (operation.run g).2.nodes[i]? = some node) : Placed i node := by
  by_cases lt : i < g.size
  · -- An old reason has kept its number and its supporters.
    have was : g.nodes[i]? = some g.nodes[i] := Array.getElem?_eq_getElem lt
    rw [nodes_run was operation] at found
    cases found
    exact ⟨(placed i _ was).id, (placed i _ was).older⟩
  · obtain ⟨kind, supporters, location, -, older, runs⟩ | ⟨id, -, -, runs⟩ | ⟨-, cause, runs⟩ :=
      run_cases g operation
    · simp only [runs, push, Array.getElem?_push] at found
      split at found
      · rename_i last
        cases found
        exact ⟨last.symm, fun j mem => last ▸ older j mem⟩
      · exact placed i node found
    · rw [runs] at found
      have le := lt_size found
      rw [size_hideAt] at le
      exact (lt le).elim
    · rw [runs] at found
      exact placed i node found

/-- Operations put reasons where their numbers say, resting on older ones, if all others are so. -/
lemma placed_after (placed : ∀ i node, g.nodes[i]? = some node → Placed i node)
    (operations : List Operation) {i : Nat} {node : Node}
    (found : (g.after operations).nodes[i]? = some node) : Placed i node := by
  induction operations generalizing g with
  | nil => exact placed i node found
  | cons operation rest ih => exact ih (fun _ _ => placed_run placed operation) found

/-- Whatever operations a graph has seen, each of its reasons has the number of its place and
rests on older ones; what follows changes none of them, except that it may hide them; a reason is
recorded exactly if all that it rests on has been, and is otherwise refused because of the first
of its supporters that has not; and an operation that fails changes nothing. -/
theorem history_ordered (operations : List Operation) :
    let g := empty.after operations
    (∀ i node, g.nodes[i]? = some node →
      node.id = i ∧ ∀ j : Nat, j ∈ node.supporters → j < i) ∧
    (∀ (later : List Operation) i (node : Node), g.nodes[i]? = some node →
      (g.after later).nodes[i]? =
        some { node with shown := node.shown && decide (Operation.hide i ∉ later) }) ∧
    (∀ (operation : Operation) kind supporters location,
      operation.request? = some (kind, supporters, location) →
        ((∃ id, (operation.run g).1 = .ok id) ↔ ∀ j : Nat, j ∈ supporters → j < g.size) ∧
        ((∀ j : Nat, j ∈ supporters → j < g.size) → operation.run g =
          (.ok (some g.size), g.push kind supporters (g.locate supporters location))) ∧
        ∀ before late rest, supporters = before ++ late :: rest →
          (∀ j : Nat, j ∈ before → j < g.size) → g.size ≤ late →
            operation.run g = (.error (.lateSupporter late g.size), g)) ∧
    ∀ (operation : Operation) cause, (operation.run g).1 = .error cause →
      (operation.run g).2 = g := by
  intro g
  refine ⟨?_, fun later i node found => nodes_after found later, ?_, ?_⟩
  · intro i node found
    have placed := placed_after (fun i node found => by simp [empty] at found) operations found
    exact ⟨placed.id, placed.older⟩
  · intro operation kind supporters location asked
    refine ⟨⟨?_, ?_⟩, run_older asked, ?_⟩
    · rintro ⟨id, answers⟩
      obtain older | ⟨before, late, rest, split, older, missing⟩ := older_or_late g supporters
      · exact older
      · rw [run_late asked split older missing] at answers
        cases answers
    · intro older
      exact ⟨_, congrArg Prod.fst (run_older asked older)⟩
    · intro before late rest split older missing
      exact run_late asked split older missing
  · intro operation cause fails
    obtain ⟨kind, supporters, location, -, -, runs⟩ | ⟨id, -, -, runs⟩ | ⟨-, other, runs⟩ :=
      run_cases g operation
    · rw [runs] at fails
      cases fails
    · rw [runs] at fails
      cases fails
    · rw [runs]

end Graph

end Because
