import Because.Program.Basic
import Mathlib.Tactic.Common

/-!
# What holds everywhere in a program

A property holds everywhere in a program if every expression and every statement has it, however
deep it lies, also in the bodies of functions and of methods. The height of a program says how
deep that is: whatever lies inside a node is lower than the node.
-/

namespace Because

/-! ## What lies immediately inside -/

/-- The expressions immediately inside an expression. -/
def Expr.inside : Expr → List Expr
  | .const _ _ | .get _ _ | .ask _ => []
  | .property _ inner _ | .not _ inner | .isNone _ inner | .withId _ inner | .askWith _ inner
  | .int _ inner => [inner]
  | .eq _ left right | .range _ left right => [left, right]
  | .new _ _ args | .plus _ args | .concat _ args | .call _ _ args | .selfCall _ _ args
  | .superCall _ _ args => args
  | .methodCall _ object _ args => object :: args

/-- The expressions immediately inside a statement. -/
def Stmt.exprs : Stmt → List Expr
  | .ifElse _ value _ _ | .forEach _ _ value _ | .whileDo _ value _ | .declare _ _ value
  | .assign _ _ value | .ret _ value | .effect _ value | .print _ value | .fullExplain _ value =>
    [value]
  | .setProperty _ owner _ value => [owner, value]
  | .shortExplain _ value depth => [value, depth]
  | .declareFunction _ _ | .declareClass _ _ | .raise _ _ | .invokeNative _ _ _ => []

/-- The statements immediately inside a statement, in branches, loops and bodies. -/
def Stmt.inside : Stmt → List Stmt
  | .ifElse _ _ thenBranch elseBranch => thenBranch ++ elseBranch
  | .forEach _ _ _ body | .whileDo _ _ body => body
  | .declareFunction _ decl => decl.body
  | .declareClass _ decl => decl.methods.flatMap FunctionDecl.body
  | _ => []

/-! ## Everywhere -/

/-- An expression and all expressions inside it satisfy `p`. -/
inductive Expr.Everywhere (p : Expr → Prop) : Expr → Prop where
  | intro {expr} : p expr → (∀ inner ∈ expr.inside, Expr.Everywhere p inner) →
    Expr.Everywhere p expr

/-- The expressions of a statement satisfy `p`, itself and the statements inside it `q`. -/
inductive Stmt.Everywhere (p : Expr → Prop) (q : Stmt → Prop) : Stmt → Prop where
  | intro {stmt} : q stmt → (∀ expr ∈ stmt.exprs, expr.Everywhere p) →
    (∀ inner ∈ stmt.inside, Stmt.Everywhere p q inner) → Stmt.Everywhere p q stmt

variable {p : Expr → Prop} {q : Stmt → Prop}

/-- What holds everywhere in an expression holds of it and everywhere in its parts. -/
lemma Expr.everywhere_iff {expr : Expr} :
    expr.Everywhere p ↔ p expr ∧ ∀ inner ∈ expr.inside, inner.Everywhere p :=
  ⟨fun ⟨own, inner⟩ => ⟨own, inner⟩, fun ⟨own, inner⟩ => ⟨own, inner⟩⟩

/-- What holds everywhere in a statement holds of it, of its expressions and of the statements
inside. -/
lemma Stmt.everywhere_iff {stmt : Stmt} :
    stmt.Everywhere p q ↔ q stmt ∧ (∀ expr ∈ stmt.exprs, expr.Everywhere p) ∧
      ∀ inner ∈ stmt.inside, inner.Everywhere p q :=
  ⟨fun ⟨own, exprs, inner⟩ => ⟨own, exprs, inner⟩, fun ⟨own, exprs, inner⟩ => ⟨own, exprs, inner⟩⟩

/-! ## Programs that do without some constructs -/

/-- Whether an expression shows the number of a reason. -/
def Expr.ShowsReason : Expr → Prop
  | .withId _ _ => True
  | _ => False

/-- Whether a statement shows an explanation. -/
def Stmt.ShowsReason : Stmt → Prop
  | .fullExplain _ _ | .shortExplain _ _ _ => True
  | _ => False

/-- Whether a statement is a loop that a condition ends. -/
def Stmt.LoopsOnCondition : Stmt → Prop
  | .whileDo _ _ _ => True
  | _ => False

/-- Nothing in the statement shows reasons. -/
def Stmt.Discreet (stmt : Stmt) : Prop :=
  stmt.Everywhere (fun expr => ¬ expr.ShowsReason) fun stmt => ¬ stmt.ShowsReason

/-- No loop in the statement is ended by a condition. -/
def Stmt.Loopless (stmt : Stmt) : Prop :=
  stmt.Everywhere (fun _ => True) fun stmt => ¬ stmt.LoopsOnCondition

/-- Nothing in the program shows reasons. -/
def Program.Discreet (program : Program) : Prop := ∀ stmt ∈ program, stmt.Discreet

/-- No loop in the program is ended by a condition. -/
def Program.Loopless (program : Program) : Prop := ∀ stmt ∈ program, stmt.Loopless

/-! ## Height -/

mutual

/-- How deep expressions nest in an expression, itself included. -/
def Expr.height : Expr → Nat
  | .const _ _ | .get _ _ | .ask _ => 1
  | .property _ inner _ | .not _ inner | .isNone _ inner | .withId _ inner | .askWith _ inner
  | .int _ inner => inner.height + 1
  | .eq _ left right | .range _ left right => max left.height right.height + 1
  | .new _ _ args | .plus _ args | .concat _ args | .call _ _ args | .selfCall _ _ args
  | .superCall _ _ args => Expr.heights args + 1
  | .methodCall _ object _ args => max object.height (Expr.heights args) + 1

/-- The height of the highest of several expressions. -/
def Expr.heights : List Expr → Nat
  | [] => 0
  | first :: rest => max first.height (Expr.heights rest)

end

mutual

/-- How deep expressions and statements nest in a statement, itself included. -/
def Stmt.height : Stmt → Nat
  | .ifElse _ value thenBranch elseBranch =>
    max value.height (max (Stmt.heights thenBranch) (Stmt.heights elseBranch)) + 1
  | .forEach _ _ value body | .whileDo _ value body => max value.height (Stmt.heights body) + 1
  | .declare _ _ value | .assign _ _ value | .ret _ value | .effect _ value | .print _ value
  | .fullExplain _ value => value.height + 1
  | .setProperty _ owner _ value => max owner.height value.height + 1
  | .shortExplain _ value depth => max value.height depth.height + 1
  | .declareFunction _ decl => Stmt.functionHeight decl + 1
  | .declareClass _ decl => Stmt.classHeight decl + 1
  | .raise _ _ | .invokeNative _ _ _ => 1

/-- The height of the highest of several statements. -/
def Stmt.heights : List Stmt → Nat
  | [] => 0
  | first :: rest => max first.height (Stmt.heights rest)

/-- The height of a function: that of its body. -/
def Stmt.functionHeight : FunctionDecl Stmt → Nat
  | ⟨_, _, body, _⟩ => Stmt.heights body

/-- The height of the highest of several functions. -/
def Stmt.functionHeights : List (FunctionDecl Stmt) → Nat
  | [] => 0
  | first :: rest => max (Stmt.functionHeight first) (Stmt.functionHeights rest)

/-- The height of a class: that of its methods. -/
def Stmt.classHeight : ClassDecl Stmt → Nat
  | ⟨_, _, _, methods⟩ => Stmt.functionHeights methods

end

/-- The height of a program. -/
def Program.height (program : Program) : Nat := Stmt.heights program

/-- None of several expressions is higher than all of them. -/
lemma Expr.height_le_heights {expr : Expr} {exprs : List Expr} (mem : expr ∈ exprs) :
    expr.height ≤ Expr.heights exprs := by
  induction exprs with
  | nil => cases mem
  | cons first rest ih =>
    simp only [Expr.heights]
    cases mem with
    | head => exact Nat.le_max_left _ _
    | tail _ mem => exact Nat.le_trans (ih mem) (Nat.le_max_right _ _)

/-- None of several statements is higher than all of them. -/
lemma Stmt.height_le_heights {stmt : Stmt} {stmts : List Stmt} (mem : stmt ∈ stmts) :
    stmt.height ≤ Stmt.heights stmts := by
  induction stmts with
  | nil => cases mem
  | cons first rest ih =>
    simp only [Stmt.heights]
    cases mem with
    | head => exact Nat.le_max_left _ _
    | tail _ mem => exact Nat.le_trans (ih mem) (Nat.le_max_right _ _)

/-- What lies inside an expression is lower. -/
lemma Expr.height_lt {expr inner : Expr} (mem : inner ∈ expr.inside) :
    inner.height < expr.height := by
  cases expr with
  | const | get | ask => cases mem
  | new | plus | concat | call | selfCall | superCall =>
    simp only [Expr.height]
    exact Nat.lt_succ_of_le (Expr.height_le_heights mem)
  | methodCall loc object method args =>
    simp only [Expr.height]
    cases mem with
    | head => omega
    | tail _ mem =>
      have := Expr.height_le_heights mem
      omega
  | eq | range =>
    simp only [Expr.inside, List.mem_cons, List.not_mem_nil, or_false] at mem
    simp only [Expr.height]
    obtain rfl | rfl := mem <;> omega
  | _ =>
    obtain rfl := List.mem_singleton.1 mem
    simp only [Expr.height]
    omega

/-- The expressions of a statement are lower than the statement. -/
lemma Stmt.height_expr_lt {stmt : Stmt} {expr : Expr} (mem : expr ∈ stmt.exprs) :
    expr.height < stmt.height := by
  cases stmt with
  | declareFunction | declareClass | raise | invokeNative => cases mem
  | setProperty | shortExplain =>
    simp only [Stmt.exprs, List.mem_cons, List.not_mem_nil, or_false] at mem
    simp only [Stmt.height]
    obtain rfl | rfl := mem <;> omega
  | _ =>
    obtain rfl := List.mem_singleton.1 mem
    simp only [Stmt.height]
    omega

/-- A function is as high as its body. -/
lemma Stmt.functionHeight_eq (decl : FunctionDecl Stmt) :
    Stmt.functionHeight decl = Stmt.heights decl.body := by
  cases decl
  rw [Stmt.functionHeight]

/-- A class is as high as its methods. -/
lemma Stmt.classHeight_eq (decl : ClassDecl Stmt) :
    Stmt.classHeight decl = Stmt.functionHeights decl.methods := by
  cases decl
  rw [Stmt.classHeight]

/-- The body of none of several methods is higher than all of them. -/
lemma Stmt.heights_body_le {method : FunctionDecl Stmt} {methods : List (FunctionDecl Stmt)}
    (mem : method ∈ methods) : Stmt.heights method.body ≤ Stmt.functionHeights methods := by
  induction methods with
  | nil => cases mem
  | cons first rest ih =>
    rw [Stmt.functionHeights, Stmt.functionHeight_eq]
    cases mem with
    | head => exact Nat.le_max_left _ _
    | tail _ mem => exact Nat.le_trans (ih mem) (Nat.le_max_right _ _)

/-- What lies inside a statement is lower, also in the bodies that it declares. -/
lemma Stmt.height_lt {stmt inner : Stmt} (mem : inner ∈ stmt.inside) :
    inner.height < stmt.height := by
  cases stmt with
  | ifElse loc value thenBranch elseBranch =>
    simp only [Stmt.height]
    obtain mem | mem := List.mem_append.1 mem
    all_goals
      have le := Stmt.height_le_heights mem
      omega
  | forEach loc name value body | whileDo loc value body =>
    have le : inner.height ≤ Stmt.heights body := Stmt.height_le_heights mem
    simp only [Stmt.height]
    omega
  | declareFunction loc decl =>
    rw [Stmt.height, Stmt.functionHeight_eq]
    exact Nat.lt_succ_of_le (Stmt.height_le_heights mem)
  | declareClass loc decl =>
    obtain ⟨method, declared, mem⟩ := List.mem_flatMap.1 mem
    rw [Stmt.height, Stmt.classHeight_eq]
    have le := Nat.le_trans (Stmt.height_le_heights mem) (Stmt.heights_body_le declared)
    exact Nat.lt_succ_of_le le
  | _ => cases mem

/-- What holds of all expressions holds everywhere. -/
lemma Expr.everywhere_of_all (h : ∀ expr, p expr) (expr : Expr) : expr.Everywhere p := by
  induction e : expr.height using Nat.strongRecOn generalizing expr with
  | ind height ih =>
    subst e
    exact .intro (h expr) fun inner mem => ih _ (Expr.height_lt mem) inner rfl

/-- What holds of all expressions and statements holds everywhere. -/
lemma Stmt.everywhere_of_all (hp : ∀ expr, p expr) (hq : ∀ stmt, q stmt) (stmt : Stmt) :
    stmt.Everywhere p q := by
  induction e : stmt.height using Nat.strongRecOn generalizing stmt with
  | ind height ih =>
    subst e
    exact .intro (hq stmt) (fun expr _ => Expr.everywhere_of_all hp expr)
      fun inner mem => ih _ (Stmt.height_lt mem) inner rfl

end Because
