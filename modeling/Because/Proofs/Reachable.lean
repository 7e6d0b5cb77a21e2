import Because.Eval.Run
import Because.Proofs.Outcome
import Because.Session.Start

/-!
# Reachable sessions

A session outlives its programs, whether they succeed or fail. The sessions that can come about
are those that start, and those that a program leaves behind in one of them.
-/

namespace Because

namespace Session

/-- A new session is what the declaration of the built-in classes leaves behind. -/
lemma start_eq (config : Config) (console : Console) : start config console =
    (Builtin.all.forM declareBuiltin (blank config console)).session?.getD
      (blank config console) := by
  unfold start
  simp only [Action.run]
  generalize Builtin.all.forM declareBuiltin (blank config console) = o
  cases o <;> rfl

/-- A program that ends, in whatever way, leads from a session to another one. -/
def LeadsTo (s s' : Session) : Prop :=
  ∃ steps program, (Because.runProgram (.within steps) program s).session? = some s'

/-- The sessions that can come about. -/
inductive Reachable : Session → Prop where
  | start (config : Config) (console : Console) : Reachable (.start config console)
  | run {s s' : Session} : Reachable s → s.LeadsTo s' → Reachable s'

/-- A statement that raises a failure leaves nothing behind but its own reason. -/
lemma raise_leads (s : Session) (loc : Location) (message : String) :
    s.LeadsTo { s with
      graph := s.graph.push (.text s!"{(Stmt.raise loc message).text} is in my program") []
        none } :=
  ⟨1, [.raise loc message], rfl⟩

end Session

end Because
