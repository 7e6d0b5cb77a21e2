import Because.Proofs.Integrity

/-!
# Stable explanations

Reasons are hidden after they have been recorded, so that an explanation could change later. But a
run hides only reasons that it has recorded itself, and an explanation depends only on reasons that
are not younger than the one it is about. So what was explained before a run is explained in the
same words after it, also if the run fails.
-/

namespace Because

open Comparison

namespace Session

/-- A run leaves all earlier reasons as they were, whether they are shown included. -/
lemma Sound.same_graph {s s' : Session} (h : s.Sound) (leads : s.LeadsTo s') :
    s.graph.size ≤ s'.graph.size ∧ Graph.SameBelow s.graph.size s.graph s'.graph := by
  obtain ⟨steps, program, left⟩ := leads
  obtain ⟨d, s1, pair⟩ := (h.runs steps program).leaves (fun _ => id) left
  obtain ⟨rfl, tracks⟩ := pair.holds
  exact ⟨tracks.size, tracks.same⟩

/-- A reason that is recorded in a session that can come about has explanations there, to every
depth and without bound, and whatever program runs afterwards, it has the same ones in what the
program leaves behind. -/
theorem Reachable.explanations_stable {s s' : Session} (h : s.Reachable) (leads : s.LeadsTo s')
    {id : ReasonId} (recorded : id < s.graph.size) (depth : Option Nat) :
    (∃ text, s.graph.explainTree id depth = .ok text ∧
      s'.graph.explainTree id depth = .ok text) ∧
    (∃ children, s.graph.children id = .ok children ∧ s'.graph.children id = .ok children) ∧
    (∃ text, s.graph.explain id = .ok text ∧ s'.graph.explain id = .ok text) ∧
    (∃ text, s.graph.explainOneLevel id = .ok text ∧ s'.graph.explainOneLevel id = .ok text) := by
  obtain ⟨-, ordered⟩ := h.sound
  obtain ⟨size, same⟩ := h.sound.same_graph leads
  have whole := Graph.explainTree_agree ordered (Nat.le_refl _) same size recorded depth
  have listed := Graph.children_agree ordered (Nat.le_refl _) same size recorded
  have sentence := Graph.explain_agree ordered (Nat.le_refl _) same recorded
  have lines := Graph.explainOneLevel_agree ordered (Nat.le_refl _) same recorded
  refine ⟨?_, ?_, ?_, ?_⟩
  · obtain ⟨text, before, after, -⟩ := whole
    exact ⟨text, before, after⟩
  · obtain ⟨children, before, after, -⟩ := listed
    exact ⟨children, before, after⟩
  · obtain ⟨text, before, after, -⟩ := sentence
    exact ⟨text, before, after⟩
  · obtain ⟨text, before, after, -⟩ := lines
    exact ⟨text, before, after⟩

/-- The reason of a statement that raises a failure is explained alike before and after another
such statement has failed. -/
theorem Reachable.explanations_stable_of_raise :
    ∃ s s' : Session, s.Reachable ∧ s.LeadsTo s' ∧ ∃ id, id < s.graph.size ∧
      ∃ text, s.graph.explainTree id none = .ok text ∧
        s'.graph.explainTree id none = .ok text := by
  -- Which session it is does not matter, and its built-in classes need not be evaluated.
  obtain ⟨start, started⟩ : ∃ s : Session, s.Reachable := ⟨_, .start {} {}⟩
  have fails (s : Session) := raise_leads s .builtin "stop"
  have reachable := started.run (fails start)
  have recorded (kind : Kind) : start.graph.size < (start.graph.push kind [] none).size := by
    rw [Graph.size_push]
    exact Nat.lt_succ_self _
  exact ⟨_, _, reachable, fails _, _, recorded _,
    (reachable.explanations_stable (fails _) (recorded _) none).1⟩

end Session

end Because
