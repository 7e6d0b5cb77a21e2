import Because.Proofs.Graph.Order

/-!
# Growing graphs

A graph changes in two ways: a reason joins it, or a reason is hidden. Neither disturbs the order
of the graph, and neither touches the reasons below the one that it is about.
-/

namespace Because

namespace Graph

variable {g : Graph} {n : Nat}

/-- A graph has one more reason after one has been added. -/
lemma size_push (kind : Kind) (supporters : List ReasonId) (location : Option Location) :
    (g.push kind supporters location).size = g.size + 1 :=
  Array.size_push ..

/-- Only numbers below the size have reasons. -/
lemma lt_size {i : Nat} {node : Node} (found : g.nodes[i]? = some node) : i < g.size :=
  (Array.getElem?_eq_some_iff.1 found).1

/-- Hiding a reason takes none away. -/
lemma size_hideAt (id : ReasonId) : (g.hideAt id).size = g.size :=
  Array.size_modify

/-- The empty graph is ordered. -/
lemma Ordered.empty : Graph.empty.Ordered := by
  intro i node found
  simp [Graph.empty] at found

/-- A reason that rests on older ones keeps a graph ordered. -/
lemma Ordered.push (h : g.Ordered) {kind : Kind} {supporters : List ReasonId}
    (older : ∀ j : Nat, j ∈ supporters → j < g.size) (rests : kind.Rests supporters)
    (location : Option Location) : (g.push kind supporters location).Ordered := by
  intro i node found
  simp only [Graph.push, Array.getElem?_push] at found
  split at found
  · -- The new reason has the first free number.
    rename_i last
    cases found
    exact ⟨last.symm, by rw [last]; exact older, rests⟩
  · exact h i node found

/-- A text rests on nothing, and so it keeps a graph ordered. -/
lemma Ordered.tell (h : g.Ordered) (message : String) :
    (g.push (.text message) [] none).Ordered :=
  @Ordered.push g h (.text message) [] (List.forall_mem_nil _) trivial none

/-- Hiding a reason changes nothing of what it rests on. -/
lemma Ordered.hideAt (h : g.Ordered) (id : ReasonId) : (g.hideAt id).Ordered := by
  intro i node found
  simp only [Graph.hideAt, Array.getElem?_modify] at found
  split at found
  · obtain ⟨old, was, rfl⟩ := Option.map_eq_some_iff.1 found
    have settled := h i old was
    exact ⟨settled.id, settled.older, settled.rests⟩
  · exact h i node found

/-- A graph has the same reasons as itself. -/
lemma SameBelow.refl (n : Nat) (g : Graph) : SameBelow n g g := fun _ _ => rfl

/-- Having the same reasons below a number is transitive. -/
lemma SameBelow.trans {a b c : Graph} (h : SameBelow n a b) (h' : SameBelow n b c) :
    SameBelow n a c :=
  fun i lt => (h' i lt).trans (h i lt)

/-- What is added comes after the reasons that were there before. -/
lemma SameBelow.push (size : n ≤ g.size) (kind : Kind) (supporters : List ReasonId)
    (location : Option Location) : SameBelow n g (g.push kind supporters location) := by
  intro i lt
  have below : i ≠ g.nodes.size := Nat.ne_of_lt (Nat.lt_of_lt_of_le lt size)
  simp only [Graph.push, Array.getElem?_push, below, if_false]

/-- Hiding a reason leaves the older ones as they are. -/
lemma SameBelow.hideAt {id : Nat} (own : n ≤ id) : SameBelow n g (g.hideAt id) := by
  intro i lt
  have other : id ≠ i := by omega
  simp only [Graph.hideAt, Array.getElem?_modify, other, if_false]

/-- The second graph has the reasons of the first one as they are there, and may have more. -/
structure Grows (g g' : Graph) : Prop where
  size : g.size ≤ g'.size
  same : SameBelow g.size g g'

namespace Grows

variable {g' g'' : Graph}

/-- A graph grows out of itself. -/
lemma refl (g : Graph) : g.Grows g := ⟨Nat.le_refl _, .refl _ _⟩

/-- A graph that grows twice has grown. -/
lemma trans (h : g.Grows g') (h' : g'.Grows g'') : g.Grows g'' where
  size := Nat.le_trans h.size h'.size
  same i lt := (h'.same i (Nat.lt_of_lt_of_le lt h.size)).trans (h.same i lt)

/-- A graph grows by a new reason. -/
lemma push (g : Graph) (kind : Kind) (supporters : List ReasonId) (location : Option Location) :
    g.Grows (g.push kind supporters location) where
  size := Nat.le.intro (size_push ..).symm
  same := .push (Nat.le_refl _) kind supporters location

end Grows

/-- Recording a reason succeeds if it rests on recorded ones. -/
lemma add_ok {supporters : List ReasonId} (older : ∀ j : Nat, j ∈ supporters → j < g.size)
    (kind : Kind) (location : Option Location) :
    g.add kind supporters location =
      .ok (g.size, g.push kind supporters (g.locate supporters location)) := by
  have none : g.firstLate? supporters = none := by
    simp only [firstLate?, List.find?_eq_none, decide_eq_true_eq, Nat.not_le]
    exact older
  simp only [add, none]

/-- A reason that is there can be hidden. -/
lemma hide_ok {id : Nat} (lt : id < g.size) : g.hide id = .ok (g.hideAt id) := by
  simp only [hide, lt, if_true]

end Graph

end Because
