import Because.Proofs.Chronicle.Mutation
import Because.Proofs.ClassNames

/-!
# Histories

A session that can come about has a history: the chronicles of the programs that have been run in
it, one after the other. In a new session there are no objects, so that all states come of the
history.
-/

namespace Because

namespace Session

variable {s : Session} {past log : List Event} {steps : Nat} {program : Program}

/-- The log tells all that has happened in the session. -/
inductive History : Session → List Event → Prop where
  | start (config : Config) (console : Console) : History (.start config console) []
  | run {s s' past log steps program} : History s past →
    s.Chronicle steps (Because.runProgram · program) log →
    (Because.runProgram (.within steps) program s).session? = some s' → History s' (past ++ log)

/-- A session that can come about has a history. -/
lemma Reachable.history (h : s.Reachable) : ∃ past, s.History past := by
  induction h with
  | start config console => exact ⟨[], .start config console⟩
  | @run s _ _ leads ih =>
    obtain ⟨past, history⟩ := ih
    obtain ⟨steps, program, left⟩ := leads
    obtain ⟨log, chronicle⟩ := s.exists_chronicle steps program
    exact ⟨past ++ log, .run history chronicle left⟩

namespace History

/-- A session that has a history can come about. -/
lemma reachable (h : s.History past) : s.Reachable := by
  induction h with
  | start config console => exact .start config console
  | run _ _ left ih => exact .run ih ⟨_, _, left⟩

/-- A history begins in a new session. -/
lemma story (h : s.History past) :
    ∃ config console, Story (.start config console) past (some s) := by
  induction h with
  | start config console => exact ⟨config, console, .ends (.refl _)⟩
  | run _ chronicle left ih =>
    obtain ⟨config, console, story⟩ := ih
    exact ⟨config, console, story.append (left ▸ chronicle.story)⟩

/-- All events of a history are sound. -/
lemma sound (h : s.History past) : ∀ e ∈ past, e.Sound := by
  induction h with
  | start => exact List.forall_mem_nil _
  | run history chronicle _ ih =>
    exact List.forall_mem_append.2 ⟨ih, chronicle.sound history.reachable.sound⟩

end History

/-- Scopes are no objects if none of those that are there is one. -/
lemma untagged_of_all {scopes : Scopes}
    (all : ((List.range scopes.size).all fun i => (scopes.scopeAt i).tag.isNone) = true)
    (i : ScopeId) : (scopes.scopeAt i).tag = none := by
  cases tagged : (scopes.scopeAt i).tag with
  | none => rfl
  | some tag =>
    have lt := Comparison.lt_size_of_tag (Option.isSome_iff_exists.2 ⟨tag, tagged⟩)
    have none := List.all_eq_true.1 all i (List.mem_range.2 lt)
    rw [tagged] at none
    cases none

/-- In a new session there are no objects. -/
lemma start_untagged (config : Config) (console : Console) (i : ScopeId) :
    ((start config console).scopes.scopeAt i).tag = none := by
  have same (s : Session) : (s.under config console).scopes = s.scopes := rfl
  rw [start_eq_under, same]
  exact untagged_of_all (by decide +kernel) i

section

variable {C : Type} {view : Handle → Option C} {empty : C} {edit : Event → ScopeId → C → C}

/-- In a session with a history, everything that objects hold comes of the history and of what
happens next. -/
theorem History.replays (h : s.History past)
    (chronicle : s.Chronicle steps (Because.runProgram · program) log)
    (edits : ∀ e : Event, e.Sound → e.Edits view empty edit)
    (blank : ∀ handle now, view handle = some now → handle.Blank → now = empty) (i : ScopeId) :
    Replays view empty edit i (past ++ log)
      (Because.runProgram (.within steps) program s).session? := by
  obtain ⟨config, console, story⟩ := h.story
  have sound := List.forall_mem_append.2 ⟨h.sound, chronicle.sound h.reachable.sound⟩
  refine (story.append chronicle.story).replays (fun e mem => edits e (sound e mem)) blank ?_
  simp only [seen?, handle?, tag?, Value.scope?, Option.bind_some, start_untagged, Option.bind_none]

end

end Session

end Because
