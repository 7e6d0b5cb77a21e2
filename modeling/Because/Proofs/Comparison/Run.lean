import Because.Eval.Run
import Because.Session.Start
import Because.Proofs.Comparison.Stmt
import Because.Proofs.Everywhere

/-!
# Comparing runs

The rules tied together match themselves: by induction on the number of steps, one step for each
rule. What runs within one step more is the rules applied to what runs within the steps so far.
-/

namespace Because

namespace Inner

/-- There are no steps left to run anything. -/
def spent : Inner where
  eval _ _ := Action.giveUp
  exec _ _ := Action.giveUp
  call _ _ _ := Action.giveUp
  passes := 0

/-- How to run nodes by the rules, if what lies inside them runs as given. -/
def next (inner : Inner) : Inner where
  eval := evalExpr inner
  exec := execStmt inner
  call := callFunction inner
  passes := inner.passes + 1

/-- With one step more, what lies inside runs with one step less. -/
lemma within_succ (steps : Nat) : within (steps + 1) = (within steps).next := rfl

end Inner

namespace Comparison

variable {C : Comparison} {c : Census} {p p' : Expr → Prop} {q q' : Stmt → Prop} {i j : Inner}
  {why : ReasonId}

/-- If runs may tire, then without steps nothing is left to compare. -/
lemma Insides.spent (tires : C.tires) : C.Insides p q .spent .spent where
  eval _ _ := .giveUp tires
  exec _ _ := .giveUp tires
  call _ _ _ := .giveUp tires
  passes _ := rfl

/-- A program matches itself, if what runs its statements does. -/
lemma runProgram_sim [C.Lawful] (h : C.Insides p q i j) (program : Program)
    (hs : ∀ stmt ∈ program, q stmt) :
    C.Sim C.failures c Same (runProgram i program) (runProgram j program) := by
  induction program generalizing c with
  | nil => exact .pure rfl
  | cons stmt rest ih =>
    obtain ⟨first, others⟩ := List.forall_mem_cons.1 hs
    unfold runProgram
    apply Sim.bind_known (.text _)
    intro d why le own
    apply Sim.bind_known (h.exec first own.reason)
    intro d1 flow le1 _
    cases flow with
    | normal => exact ih others
    | returned result => exact .pure rfl

variable [C.Lawful]

/-- Calls match if there is room for them in both runs alike. -/
lemma callFunction_sim (h : C.Insides p q i j) (hq : ∀ stmt, C.body stmt → q stmt)
    (room : ∀ {d s t} (frame : Frame), C.Pair d s t → C.Room d frame s t) (id : FunctionId)
    {args : List Justified} (ha : Justified.AllIn c args) (hw : c.reason why) :
    C.Sim C.failures c C.Info (callFunction i id args why)
      (callFunction j id (args.map (Justified.rename C.rename)) (C.rename why)) :=
  fun _ _ pair => callFunction_ends h hq pair id ha hw fun _ => room _ pair

/-- One step more matches if the calls do. -/
lemma Insides.next (h : C.Insides p q i j) (hp : ∀ {expr}, p' expr → expr.Parts C p)
    (hq : ∀ {stmt}, q' stmt → stmt.Parts C p q)
    (call : ∀ {d id args because}, d.function id → Justified.AllIn d args →
      d.reason because → C.Sim C.failures d C.Info (callFunction i id args because)
        (callFunction j id (args.map (Justified.rename C.rename)) (C.rename because))) :
    C.Insides p' q' i.next j.next where
  eval parts hw := evalExpr_sim h (hp parts) hw
  exec parts hw := execStmt_sim h (hq parts) hw
  call := call
  passes tires := congrArg (· + 1) (h.passes tires)

/-! ## Which nodes match themselves -/

omit [C.Lawful] in
/-- An expression may be compared if what lies inside it may. -/
lemma parts_expr {expr : Expr} (shows : expr.ShowsReason → C.shows)
    (inside : ∀ inner ∈ expr.inside, p inner) : expr.Parts C p := by
  cases expr with
  | const | get | ask => trivial
  | withId => exact ⟨shows trivial, inside _ List.mem_cons_self⟩
  | eq | range =>
    exact ⟨inside _ List.mem_cons_self, inside _ (List.mem_cons_of_mem _ List.mem_cons_self)⟩
  | methodCall => exact List.forall_mem_cons.1 inside
  | new | plus | concat | call | selfCall | superCall => exact inside
  | _ => exact inside _ List.mem_cons_self

omit [C.Lawful] in
/-- A statement may be compared if its expressions and what lies inside it may. -/
lemma parts_stmt {stmt : Stmt} (shows : stmt.ShowsReason → C.shows)
    (tires : stmt.LoopsOnCondition → C.tires) (body : ∀ inner ∈ stmt.inside, C.body inner)
    (exprs : ∀ expr ∈ stmt.exprs, p expr) (inside : ∀ inner ∈ stmt.inside, q inner) :
    stmt.Parts C p q := by
  cases stmt with
  | ifElse => exact ⟨exprs _ List.mem_cons_self, List.forall_mem_append.1 inside⟩
  | forEach => exact ⟨exprs _ List.mem_cons_self, inside⟩
  | whileDo => exact ⟨tires trivial, exprs _ List.mem_cons_self, inside⟩
  | declareFunction => exact body
  | declareClass =>
    exact fun method declared stmt mem => body stmt (List.mem_flatMap.2 ⟨method, declared, mem⟩)
  | setProperty =>
    exact ⟨exprs _ List.mem_cons_self, exprs _ (List.mem_cons_of_mem _ List.mem_cons_self)⟩
  | fullExplain => exact ⟨shows trivial, exprs _ List.mem_cons_self⟩
  | shortExplain =>
    exact ⟨shows trivial, exprs _ List.mem_cons_self,
      exprs _ (List.mem_cons_of_mem _ List.mem_cons_self)⟩
  | raise | invokeNative => trivial
  | _ => exact exprs _ List.mem_cons_self

/-- Nodes of some kind, within any number of steps, match themselves, if this kind of node has
only nodes of the kind inside. -/
lemma Insides.within_of (tires : C.tires) (hp : ∀ {expr}, p expr → expr.Parts C p)
    (hq : ∀ {stmt}, q stmt → stmt.Parts C p q) (hb : ∀ stmt, C.body stmt → q stmt)
    (room : ∀ {d s t} (frame : Frame), C.Pair d s t → C.Room d frame s t) (steps : Nat) :
    C.Insides p q (.within steps) (.within steps) := by
  induction steps with
  | zero => exact .spent tires
  | succ steps ih =>
    rw [Inner.within_succ]
    refine ih.next hp hq ?_
    intro d id args because _ ha hw
    exact callFunction_sim ih hb room id ha hw

/-- All programs may be compared. -/
structure Admits (C : Comparison) : Prop where
  tires : C.tires
  shows : C.shows
  body : ∀ stmt, C.body stmt

omit [C.Lawful] in
/-- Whatever lies inside an expression may be compared with all else. -/
lemma Admits.expr (h : C.Admits) (expr : Expr) : expr.Parts C fun _ => True :=
  parts_expr (fun _ => h.shows) fun _ _ => trivial

omit [C.Lawful] in
/-- A comparison that admits everything admits what is immediately inside a statement. -/
lemma Admits.stmt (h : C.Admits) (stmt : Stmt) :
    stmt.Parts C (fun _ => True) (fun _ => True) :=
  parts_stmt (fun _ => h.shows) (fun _ => h.tires) (fun _ _ => h.body _) (fun _ _ => trivial)
    fun _ _ => trivial

/-- All nodes, within any number of steps, match themselves. -/
lemma Insides.within (admits : C.Admits)
    (room : ∀ {d s t} (frame : Frame), C.Pair d s t → C.Room d frame s t) (steps : Nat) :
    C.Insides (fun _ => True) (fun _ => True) (.within steps) (.within steps) :=
  .within_of admits.tires (fun _ => admits.expr _) (fun _ => admits.stmt _) (fun _ _ => trivial)
    room steps

/-! ## The start of a session -/

/-- Declaring a method of a built-in class matches itself. -/
lemma declareBuiltinMethod_sim
    (hb : ∀ method params, C.body (.invokeNative .builtin method params)) {id : ClassId}
    (hid : c.classId id) {implScope : ScopeId} (hs : c.scope implScope) (method : String)
    (params : List String) :
    C.Sim C.failures c Same (declareBuiltinMethod id implScope method params)
      (declareBuiltinMethod id implScope method params) := by
  unfold declareBuiltinMethod
  have known : FunctionDef.In c (Builtin.function id method params) := by
    intro owner mem
    cases mem
    exact hid
  have body : ∀ stmt ∈ (Builtin.function id method params).body, C.body stmt := by
    intro stmt mem
    rw [List.mem_singleton.1 mem]
    exact hb method params
  apply Sim.bind_known (.define known body)
  intro d function le hf
  apply Sim.bind_known (.text _)
  intro d1 because le1 own
  have later := le.trans le1
  have known : Justified.In d1 ⟨.functionRef function, because⟩ :=
    ⟨le1.function hf, own.reason⟩
  apply Sim.bind_same (.declare method (.inl (later.scope hs)) known)
  intro d2 _ le2
  exact .setMethod method ((later.trans le2).classId hid) (le2.function (le1.function hf))

/-- Declaring a built-in class matches itself. -/
lemma declareBuiltin_sim (hb : ∀ method params, C.body (.invokeNative .builtin method params))
    (builtin : Builtin) (global : c.scope Session.globalScope) :
    C.Sim C.failures c Same (declareBuiltin builtin) (declareBuiltin builtin) := by
  unfold declareBuiltin
  apply Sim.bind_known (.newScope _ global)
  intro d implScope le hs s t pair
  -- The class is its own base: the number that it gets is the one that was asked for.
  refine .ask ?_
  rw [pair.classes]
  refine (Sim.defineClass_ends pair (by nofun) fun {e} later own => ?_).bind ?_
  · refine ⟨nofun, later.scope hs, nofun, ?_⟩
    intro base mem
    cases mem
    exact own
  · rintro d1 id _ le1 ⟨own, -, hid⟩
    rw [← own]
    apply Sim.bind_known (.text _)
    intro d2 because le2 own
    have later := le.trans (le1.trans le2)
    have known : Justified.In d2 ⟨.classRef id, because⟩ :=
      ⟨le2.classId hid, own.reason⟩
    apply Sim.bind_same (.declare _ (.inl (later.scope global)) known)
    intro d3 _ le3
    have hid := le3.classId (le2.classId hid)
    have hs := le3.scope (le2.scope (le1.scope hs))
    refine .forM fun e method later => ?_
    exact declareBuiltinMethod_sim hb (later.classId hid) (later.scope hs) method.1 method.2

/-- Declaring all built-in classes matches itself. -/
lemma start_sim (hb : ∀ method params, C.body (.invokeNative .builtin method params))
    (global : c.scope Session.globalScope) :
    C.Sim C.failures c Same (Builtin.all.forM declareBuiltin)
      (Builtin.all.forM declareBuiltin) :=
  .forM fun _ builtin later => declareBuiltin_sim hb builtin (later.scope global)

end Comparison

end Because
