import Because.Eval.Expr
import Because.Eval.Stmt

/-!
# Running programs

The rules for expressions, statements and calls, tied together. A number of steps bounds how deep
nodes may nest while they run and how many passes a loop may make; running out of steps is told
apart from every result and every failure.
-/

namespace Because

mutual

/-- Evaluate an expression within a number of steps. -/
def eval : Nat → Expr → ReasonId → Eval Justified
  | 0, _, _ => Action.giveUp
  | steps + 1, expr, why => evalExpr ⟨eval steps, exec steps, call steps, steps⟩ expr why
termination_by structural steps => steps

/-- Execute a statement within a number of steps. -/
def exec : Nat → Stmt → ReasonId → Eval Flow
  | 0, _, _ => Action.giveUp
  | steps + 1, stmt, why => execStmt ⟨eval steps, exec steps, call steps, steps⟩ stmt why
termination_by structural steps => steps

/-- Call a function within a number of steps. -/
def call : Nat → FunctionId → List Justified → ReasonId → Eval Justified
  | 0, _, _, _ => Action.giveUp
  | steps + 1, id, args, why =>
    callFunction ⟨eval steps, exec steps, call steps, steps⟩ id args why
termination_by structural steps => steps

end

/-- How to run what lies inside a node, within a number of steps. -/
def Inner.within (steps : Nat) : Inner :=
  ⟨Because.eval steps, Because.exec steps, Because.call steps, steps⟩

/-- Run the statements of a program. Each of them runs because it is in the program; a `return`
ends the program. -/
def runProgram (inner : Inner) : Program → Eval Unit
  | [] => return
  | stmt :: rest => do
    let why ← Action.text s!"{stmt.text} is in my program"
    match ← inner.exec stmt why with
    | .normal => runProgram inner rest
    | .returned _ => return

/-- More steps than any run can take. -/
def patience : Nat := 4611686018427387904

namespace Session

/-- Run a program. -/
def runProgram (s : Session) (program : Program) : Outcome Failure Unit :=
  Because.runProgram (.within patience) program |>.run s

def newObject (s : Session) (className : String) (args : List Justified) (why : ReasonId) :
    Outcome Failure Justified :=
  Because.newObject (.within patience) className args why |>.run s

def newHiddenObject (s : Session) (className : String) (args : List Justified)
    (why : ReasonId) : Outcome Failure Justified :=
  Because.newHiddenObject (.within patience) className args why |>.run s

def callMethod (s : Session) (receiver : Justified) (method : String) (args : List Justified)
    (why : ReasonId) : Outcome Failure Justified :=
  Because.callMethod (.within patience) receiver method args why |>.run s

def callFunction (s : Session) (id : FunctionId) (args : List Justified) (why : ReasonId) :
    Outcome Failure Justified :=
  Because.callFunction (.within patience) id args why |>.run s

end Session

end Because
