import Because.Graph.Children
import Mathlib.Data.Finset.Card
import Mathlib.Data.Finset.Range
import Mathlib.Tactic.Common

/-!
# The walk by recursion

The children of a reason are found by a loop over the reasons that are pending: what a hidden reason
passes on is put ahead of the rest. The same walk can be told by recursion: a hidden reason is
walked to the end, and then the walk goes on behind it. In every graph both meet the same reasons in
the same order, so that proofs may follow the recursion. The main statement is `children_eq_walk`.
-/

namespace Because

/-- The first part of a computation that gives a result gives one, from which the rest goes on. -/
lemma of_bind_ok {ε α β : Type} {r : Except ε α} {f : α → Except ε β} {y : β}
    (ends : r >>= f = .ok y) : ∃ x, r = .ok x ∧ f x = .ok y := by
  cases r with
  | error e => cases ends
  | ok x => exact ⟨x, rfl, ends⟩

namespace Graph

/-- Walk over `ids` from left to right. A hidden reason is opened the first time it is met, and
`depth` bounds how far openings nest: a nested opening is of another reason, so that one more
than the number of reasons is enough. -/
def walk (g : Graph) : Nat → List ReasonId → Walk → Except GraphError Walk
  | 0, _, w => .ok w
  | depth + 1, ids, w =>
    let visit (w : Walk) (id : ReasonId) : Except GraphError Walk := do
      let node ← g.get id
      if node.shown then
        return if w.listed.contains id then w else { w with listed := id :: w.listed }
      else if w.opened.contains id then
        return w
      else
        g.walk depth node.followed { w with opened := id :: w.opened }
    ids.foldlM visit w

/-- One step of a walk. -/
def visit (g : Graph) (depth : Nat) (w : Walk) (id : ReasonId) : Except GraphError Walk := do
  let node ← g.get id
  if node.shown then
    return if w.listed.contains id then w else { w with listed := id :: w.listed }
  else if w.opened.contains id then
    return w
  else
    g.walk depth node.followed { w with opened := id :: w.opened }

variable {g : Graph} {id : ReasonId} {node : Node} {ids pending : List ReasonId} {w w' : Walk}

/-- A walk takes one step for each reason. -/
lemma walk_succ (depth : Nat) (ids : List ReasonId) (w : Walk) :
    g.walk (depth + 1) ids w = ids.foldlM (g.visit depth) w := rfl

/-- A reason that can be looked up stands in the graph. -/
lemma get_ok (found : g.get id = .ok node) : g.nodes[id]? = some node := by
  unfold get at found
  split at found
  · cases found
    assumption
  · cases found

/-! ## Reasons that can still be opened -/

/-- How many reasons a walk has not opened. -/
def unopened (g : Graph) (w : Walk) : Nat := ((Finset.range g.size).filter (· ∉ w.opened)).card

/-- At first all reasons can still be opened. -/
lemma unopened_start (g : Graph) : g.unopened {} = g.size := by
  simp [unopened]

/-- The more has been opened, the less is left to open. -/
lemma unopened_le (keeps : w.opened ⊆ w'.opened) : g.unopened w' ≤ g.unopened w :=
  Finset.card_le_card (Finset.monotone_filter_right _ fun _ _ fresh mem => fresh (keeps mem))

/-- Each opening leaves one reason less to open. -/
lemma unopened_lt (found : g.nodes[id]? = some node) (fresh : w.opened.contains id = false) :
    g.unopened { w with opened := id :: w.opened } < g.unopened w := by
  have lt : id < g.size := (Array.getElem?_eq_some_iff.1 found).1
  refine Finset.card_lt_card (Finset.ssubset_iff_of_subset ?_ |>.2 ⟨id, ?_, ?_⟩)
  · exact Finset.monotone_filter_right _ fun _ _ fresh mem => fresh (List.mem_cons_of_mem _ mem)
  · simpa [lt] using fresh
  · simp

/-- What has been opened stays so in a step of a walk if it does in the walk inside. -/
lemma visit_keeps {depth : Nat}
    (inside : ∀ ids w w', g.walk depth ids w = .ok w' → w.opened ⊆ w'.opened)
    (ends : g.visit depth w id = .ok w') : w.opened ⊆ w'.opened := by
  obtain ⟨node, -, ends⟩ := of_bind_ok ends
  split at ends
  · obtain rfl := Except.ok.inj ends
    split <;> exact List.Subset.refl _
  · split at ends
    · obtain rfl := Except.ok.inj ends
      exact List.Subset.refl _
    · exact fun _ mem => inside _ _ _ ends (List.mem_cons_of_mem _ mem)

/-- What a walk has opened stays so. -/
lemma walk_keeps {depth : Nat} (ends : g.walk depth ids w = .ok w') : w.opened ⊆ w'.opened := by
  induction depth generalizing ids w w' with
  | zero =>
    obtain rfl := Except.ok.inj ends
    exact List.Subset.refl _
  | succ depth deeper =>
    rw [walk_succ] at ends
    induction ids generalizing w with
    | nil =>
      obtain rfl := Except.ok.inj ends
      exact List.Subset.refl _
    | cons id rest ih =>
      rw [List.foldlM_cons] at ends
      obtain ⟨w1, visited, ends⟩ := of_bind_ok ends
      exact fun _ mem => ih ends (visit_keeps (fun _ _ _ => deeper) visited mem)

/-! ## The loop and the recursion -/

/-- A loop that may open more hidden reasons than there are left to open never gets to its bound. -/
lemma workOff_succ {openings : Nat} (enough : g.unopened w < openings) :
    g.workOff (openings + 1) pending w = g.workOff openings pending w := by
  induction openings generalizing pending w with
  | zero => omega
  | succ openings onward =>
    change g.scan (g.workOff (openings + 1)) pending w = g.scan (g.workOff openings) pending w
    induction pending generalizing w with
    | nil => rfl
    | cons next pending ih =>
      simp only [scan]
      cases got : g.get next with
      | error => rfl
      | ok node =>
        change ite _ _ _ = ite _ _ _
        split
        · refine ih ?_
          split <;> exact enough
        · split
          · exact ih enough
          · have fewer := unopened_lt (get_ok got) (Bool.eq_false_of_not_eq_true ‹_›)
            exact onward (by omega)

/-- The loop works off the first of the pending reasons as the recursion does, and then goes on with
the rest. -/
lemma workOff_append {openings : Nat} (enough : g.unopened w < openings)
    (ids rest : List ReasonId) :
    g.workOff openings (ids ++ rest) w = g.walk openings ids w >>= g.workOff openings rest := by
  induction openings generalizing ids rest w with
  | zero => omega
  | succ openings onward =>
    rw [walk_succ]
    induction ids generalizing w with
    | nil => rfl
    | cons id ids ih =>
      rw [List.foldlM_cons, List.cons_append, workOff, scan, visit]
      cases got : g.get id with
      | error => rfl
      | ok node =>
        change ite _ _ _ = ((ite _ _ _ : Except GraphError Walk) >>= _) >>= _
        split
        · refine ih ?_
          split <;> exact enough
        · split
          · exact ih enough
          · -- What a hidden reason passes on comes first, and leaves the others pending.
            have fewer := unopened_lt (get_ok got) (Bool.eq_false_of_not_eq_true ‹_›)
            rw [onward (by omega), bind_assoc]
            cases walked : g.walk openings node.followed { w with opened := id :: w.opened } with
            | error => rfl
            | ok w1 =>
              have less := unopened_le (g := g) (walk_keeps walked)
              change g.workOff openings (ids ++ rest) w1 = _
              rw [← workOff_succ (by omega)]
              exact ih (by omega)

/-- The children of a reason are those that the walk by recursion lists. -/
theorem children_eq_walk (g : Graph) (id : ReasonId) : g.children id = do
    let node ← g.get id
    let w ← g.walk (g.size + 1) node.followed {}
    return w.listed.reverse := by
  unfold children
  congr 1
  funext node
  have enough : g.unopened {} < g.size + 1 := by
    rw [unopened_start]
    exact Nat.lt_succ_self _
  have same := workOff_append enough node.followed []
  rw [List.append_nil] at same
  rw [same, bind_assoc]
  rfl

end Graph

end Because
