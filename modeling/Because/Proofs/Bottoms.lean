import Because.Proofs.Operands
import Because.Proofs.Orderly.Kept

/-!
# Where explanations end

Reasons rest on older ones, so that whoever asks for the reasons of a reason, and for the reasons of
these, comes to an end. What is met there should need no reason: it is a text, which a literal, an
input, a statement of the program or a built-in class has brought about, or it is said to be unknown.
There is one conclusion that rests on nothing all the same. The number of items of a list rests on
the items, so that nothing is left that it could rest on when the list is empty.
-/

namespace Because

open Session Comparison

/-- What may rest on nothing: texts, unknown reasons, and the number of items of an empty list. -/
def Kind.Ends (kind : Kind) : Prop :=
  kind.IsLeaf ∨ ∃ list : String, kind = .conj s!"these {(0 : Nat)} items were added to {list}"

/-- The reason rests on older ones, or on nothing if it may. -/
structure Node.Founded (i : Nat) (node : Node) : Prop where
  older : ∀ j : Nat, j ∈ node.supporters → j < i
  ends : node.supporters = [] → node.kind.Ends

namespace Graph

variable {g g' : Graph} {id : Nat}

/-- All reasons of the graph are founded. -/
def Founded (g : Graph) : Prop := ∀ i node, g.nodes[i]? = some node → Node.Founded i node

/-- Explanations end at the reason. -/
def EndsAt (g : Graph) (id : ReasonId) : Prop :=
  ∃ node, g.nodes[id]? = some node ∧ node.supporters = [] ∧ node.kind.Ends

/-- Explanations end wherever one follows them. -/
structure BottomsOut (g : Graph) : Prop where
  /-- No chain of supporters goes on for ever. -/
  finite : WellFounded fun supporter id => g.Supports id supporter
  /-- Where no supporter leads on, explanations end. -/
  ends : ∀ id : Nat, id < g.size → (∀ supporter, ¬ g.Supports id supporter) → g.EndsAt id
  /-- A chain of supporters leads to an end. -/
  reaches : ∀ id : Nat, id < g.size →
    ∃ bottom, g.EndsAt bottom ∧ (bottom = id ∨ g.RestsOn id bottom)

/-! ## Changes -/

/-- Without reasons nothing lacks a foundation. -/
lemma Founded.empty : Graph.empty.Founded := by
  intro i node found
  simp [Graph.empty] at found

/-- A new reason is founded if it rests on recorded ones, or on nothing where this may be. -/
lemma Founded.push (h : g.Founded) {kind : Kind} {supporters : List ReasonId}
    (known : g.Knows supporters) (ends : supporters = [] → kind.Ends)
    (location : Option Location) : (g.push kind supporters location).Founded := by
  intro i node found
  simp only [Graph.push, Array.getElem?_push] at found
  split at found
  · rename_i last
    cases found
    exact ⟨by rw [last]; exact known, ends⟩
  · exact h i node found

/-- Hiding a reason takes no foundation away. -/
lemma Founded.hideAt (h : g.Founded) (id : ReasonId) : (g.hideAt id).Founded := by
  intro i node found
  simp only [Graph.hideAt, Array.getElem?_modify] at found
  split at found
  · obtain ⟨old, was, rfl⟩ := Option.map_eq_some_iff.1 found
    have founded := h i old was
    exact ⟨founded.older, founded.ends⟩
  · exact h i node found

/-- Whatever a step does to the graph, its reasons stay founded. -/
lemma Recorded.founded (recorded : g.Recorded g') (h : g.Founded) : g'.Founded := by
  cases recorded with
  | same => exact h
  | leaf leaf => exact h.push (fun _ mem => absurd mem List.not_mem_nil) (fun _ => .inl leaf) none
  | push location known founded => exact h.push known (fun none => .inr (founded none)) location
  | hide id => exact h.hideAt id

/-! ## Chains -/

/-- Supporters are older, and are there. -/
lemma Founded.supports_lt (h : g.Founded) {supporter : Nat} (supports : g.Supports id supporter) :
    supporter < id ∧ id < g.size := by
  obtain ⟨node, found, mem⟩ := supports
  exact ⟨(h id node found).older supporter mem, (Array.getElem?_eq_some_iff.1 found).1⟩

/-- If every reason rests on older ones or may rest on nothing, chains of supporters end. -/
lemma Founded.bottomsOut (h : g.Founded) : g.BottomsOut := by
  have ends (id : Nat) (lt : id < g.size) (last : ∀ supporter, ¬ g.Supports id supporter) :
      g.EndsAt id := by
    have found : g.nodes[id]? = some g.nodes[id] := Array.getElem?_eq_getElem lt
    have none : g.nodes[id].supporters = [] :=
      List.eq_nil_iff_forall_not_mem.2 fun supporter mem => last supporter ⟨_, found, mem⟩
    exact ⟨_, found, none, (h id _ found).ends none⟩
  refine ⟨?_, ends, fun id lt => ?_⟩
  · exact Subrelation.wf (fun supports => (h.supports_lt supports).1) Nat.lt_wfRel.wf
  · induction id using Nat.strongRecOn with
    | ind id ih =>
      by_cases last : ∀ supporter, ¬ g.Supports id supporter
      · exact ⟨id, ends id lt last, .inl rfl⟩
      · obtain ⟨supporter, supports⟩ := not_forall_not.1 last
        have older := (h.supports_lt supports).1
        obtain ⟨bottom, endsAt, rfl | below⟩ := ih supporter older (Nat.lt_trans older lt)
        · exact ⟨bottom, endsAt, .inr (.single supports)⟩
        · exact ⟨bottom, endsAt, .inr (.head supports below)⟩

end Graph

namespace Session

variable {s : Session}

/-- No change of a session takes the foundation of a reason away. -/
lemma founded_kept : Kept fun s => s.graph.Founded :=
  fun _ _ change => change.recorded.founded

/-- In sessions that can come about, every chain of supporters ends, at every moment of a run and
after it: in a text, in an unknown reason, or in the number of items of an empty list. All other
reasons rest on something. -/
theorem Reachable.bottoms_out (h : s.Reachable) :
    s.graph.BottomsOut ∧
    ∀ program, s.KeepsThrough (fun now => now.graph.BottomsOut) (Because.runProgram · program) := by
  have founded : s.graph.Founded := h.keeps founded_kept fun _ _ => .empty
  refine ⟨founded.bottomsOut, fun program => ?_⟩
  exact (h.inOrder.keeps_program founded_kept founded program).mono (steady_runProgram program)
    fun _ founded => founded.bottomsOut

/-- A program that counts the items of a new list. -/
def counter : Program :=
  [.declare .builtin "n" (.methodCall .builtin (.new .builtin "List" []) "getLength" [])]

/-- Explanations bottom out in a new session, and through a run that counts the items of an empty
list: the number of these is the one reason that is no leaf and yet rests on nothing. -/
theorem Reachable.bottoms_out_of_start : (Session.start {} {}).Reachable ∧
    (Session.start {} {}).graph.BottomsOut ∧
    (Session.start {} {}).KeepsThrough (fun now => now.graph.BottomsOut)
      (Because.runProgram · counter) := by
  have reachable := Reachable.start {} {}
  obtain ⟨now, later⟩ := reachable.bottoms_out
  exact ⟨reachable, now, later counter⟩

/-- An explanation may end in a conclusion: the number of items of an empty list. -/
theorem counter_concludes : (start {} {}).Reachable ∧ ∃ (s : Session) (id : Nat) (node : Node),
    (start {} {}).LeadsTo s ∧ s.graph.nodes[id]? = some node ∧ node.supporters = [] ∧
      ¬ node.kind.IsLeaf := by
  have runs : ((Because.runProgram (.within 8) counter (start {} {})).session?.map fun s =>
      (s.graph.nodes[38]?).map fun node => (node.kind, node.supporters)) =
        some (some (.conj "these 0 items were added to List@1", [])) := by
    decide +kernel
  obtain ⟨s, left, same⟩ := Option.map_eq_some_iff.1 runs
  obtain ⟨node, found, what⟩ := Option.map_eq_some_iff.1 same
  obtain ⟨kind, none⟩ := Prod.mk.inj what
  refine ⟨.start {} {}, s, 38, node, ⟨8, counter, left⟩, found, none, ?_⟩
  rw [kind]
  exact id

end Session

end Because
