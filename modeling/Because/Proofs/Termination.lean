import Because.Program.Build
import Because.Proofs.Depth
import Because.Proofs.Integrity
import Because.Proofs.Orderly.Run

/-!
# Termination

A program without loops that a condition ends comes to an end, if the depth of calls is limited. In
between calls, whatever runs lies lower and lower in the program; a call starts again from the top
of a body, but leaves room for one call less. So the number of steps that suffices is known before
the program runs. A loop over a collection needs no more of them, however long the collection is.
-/

namespace Because

/-- Every expression has some height. -/
lemma Expr.height_pos (expr : Expr) : 0 < expr.height := by
  cases expr <;> exact Nat.succ_pos _

/-- Every statement has some height. -/
lemma Stmt.height_pos (stmt : Stmt) : 0 < stmt.height := by
  cases stmt <;> exact Nat.succ_pos _

namespace Stmt

variable {stmt inner : Stmt}

/-- Inside a statement that loops on no condition there is none that does. -/
lemma Loopless.inside (h : stmt.Loopless) (mem : inner ∈ stmt.inside) : inner.Loopless := by
  obtain ⟨-, -, all⟩ := everywhere_iff.1 h
  exact all inner mem

/-- A statement of a program in which only collections are looped over, of limited height. -/
structure LooplessBelow (height : Nat) (stmt : Stmt) : Prop where
  loopless : stmt.Loopless
  height_le : stmt.height ≤ height

/-- What lies inside a statement of limited height is lower. -/
lemma LooplessBelow.inside {height : Nat} (h : stmt.LooplessBelow (height + 1))
    (mem : inner ∈ stmt.inside) : inner.LooplessBelow height :=
  ⟨h.loopless.inside mem, Nat.le_of_lt_succ (Nat.lt_of_lt_of_le (height_lt mem) h.height_le)⟩

/-- What is low is also low for a higher limit. -/
lemma LooplessBelow.mono {low height : Nat} (h : stmt.LooplessBelow low) (le : low ≤ height) :
    stmt.LooplessBelow height :=
  ⟨h.loopless, Nat.le_trans h.height_le le⟩

end Stmt

/-- There is room for at most so many calls more, under the limit `n`. -/
structure CallStack.Leaves (n room : Nat) (calls : CallStack) : Prop where
  limit : calls.limit = some n
  depth : n ≤ calls.depth + room

namespace CallStack.Leaves

variable {n room : Nat} {calls : CallStack}

/-- If there is no room, no call may begin. -/
lemma isFull (h : calls.Leaves n 0) : calls.isFull = true := by
  simp only [CallStack.isFull, h.limit, decide_eq_true_eq]
  exact h.depth

/-- A call leaves room for one call less. -/
lemma enter (h : calls.Leaves n (room + 1)) (frame : Frame) :
    (calls.enter frame).Leaves n room := by
  refine ⟨h.limit, ?_⟩
  have deeper : (calls.enter frame).depth = calls.depth + 1 := List.length_cons
  have depth := h.depth
  omega

end CallStack.Leaves

namespace Comparison

/-- The comparison of a run with the same run within another number of steps. There is room for at
most so many calls more, of bodies of at most the given height. -/
def spending (n height room : Nat) : Comparison :=
  (relimited id (CallStack.Leaves n room) (fun _ => True) (fun _ => False)).restrict
    False True (Stmt.LooplessBelow height)

variable {n height room : Nat} {c : Census} {s t : Session}

instance : (spending n height room).Lawful := relimited_restrict_lawful fun _ _ => trivial

/-- Values correspond to themselves. -/
lemma spending_infos (infos : List Justified) :
    infos.map (Justified.rename (spending n height room).rename) = infos := infos.map_id

/-- A session corresponds to itself if its functions are of limited height. -/
lemma spending_pair (h : s.calls.Leaves n room)
    (bodies : ∀ function ∈ s.functions, ∀ stmt ∈ function.body, stmt.LooplessBelow height) :
    (spending n height room).Pair .all s s :=
  (relimited_pair h .all s.in_all).restrict bodies

/-- What matches at all neither runs out of steps nor depends on their number. -/
lemma spending_eq {o o' : Outcome Failure Unit}
    (h : (spending n height room).Ends (spending n height room).failures c s t Same o o') :
    o' = o ∧ o ≠ .exhausted := by
  have same := relimited_id_eq (h.unrestrict False.elim fun _ _ => trivial)
  refine ⟨same.resolve_right fun ⟨_, _, _, never⟩ => never, ?_⟩
  rintro rfl
  cases h with
  | exhausted never => exact never

/-- How many steps a call takes at most. -/
def callSteps (height room : Nat) : Nat := room * (height + 1)

/-- With room for one call more, a call may take the steps of one body more. -/
lemma callSteps_succ (height room : Nat) :
    callSteps height (room + 1) = callSteps height room + height + 1 :=
  Nat.succ_mul room (height + 1)

/-- Calls match within numbers of steps that suffice for them. -/
def CallsMatch (n height room : Nat) : Prop :=
  ∀ {m m' : Nat}, callSteps height room ≤ m → callSteps height room ≤ m' →
    ∀ {c : Census} {id : FunctionId} {args : List Justified} {why : ReasonId},
      Justified.AllIn c args → c.reason why →
        (spending n height room).Sim (spending n height room).failures c
          (spending n height room).Info (callFunction (.within m) id args why)
          (callFunction (.within m') id args why)

/-- If calls match, nodes of limited height match: every step leads to a lower node. -/
lemma CallsMatch.insides (calls : CallsMatch n height room) {low m m' : Nat}
    (le : low ≤ height + 1) (hm : callSteps height room + low + 1 ≤ m)
    (hm' : callSteps height room + low + 1 ≤ m') :
    (spending n height room).Insides (fun expr => expr.height ≤ low) (Stmt.LooplessBelow low)
      (.within m) (.within m') := by
  induction low generalizing m m' with
  | zero =>
    -- No node is so low, and only calls remain to be compared.
    obtain ⟨m, rfl⟩ := Nat.exists_eq_add_of_le' hm
    obtain ⟨m', rfl⟩ := Nat.exists_eq_add_of_le' hm'
    refine ⟨?_, ?_, ?_, False.elim⟩
    · intro c expr why low
      exact absurd expr.height_pos (Nat.not_lt.2 low)
    · intro c stmt why low
      exact absurd stmt.height_pos (Nat.not_lt.2 low.height_le)
    · intro c id args why _ ha hw
      rw [spending_infos]
      exact calls (Nat.le_add_left _ m) (Nat.le_add_left _ m') ha hw
  | succ low ih =>
    obtain ⟨m, rfl⟩ := Nat.exists_eq_add_of_le' hm
    obtain ⟨m', rfl⟩ := Nat.exists_eq_add_of_le' hm'
    have inner := ih (Nat.le_of_succ_le le) (Nat.le_add_left _ m) (Nat.le_add_left _ m')
    refine inner.next ?_ ?_ ?_
    · intro expr low
      refine parts_expr (fun _ => trivial) fun inner mem => ?_
      exact Nat.le_of_lt_succ (Nat.lt_of_lt_of_le (Expr.height_lt mem) low)
    · intro stmt low
      obtain ⟨loopless, -, -⟩ := Stmt.everywhere_iff.1 low.loopless
      refine parts_stmt (fun _ => trivial) (fun loops => loopless loops) ?_ ?_ ?_
      · exact fun inner mem => (low.inside mem).mono (Nat.le_of_succ_le_succ le)
      · exact fun expr mem =>
          Nat.le_of_lt_succ (Nat.lt_of_lt_of_le (Stmt.height_expr_lt mem) low.height_le)
      · exact fun inner mem => low.inside mem
    · intro d id args because _ ha hw
      rw [spending_infos]
      have enough (k : Nat) : callSteps height room ≤ k + (callSteps height room + low + 1) := by
        omega
      exact calls (enough m) (enough m') ha hw

/-- Calls match: without any room they are refused, and otherwise their bodies run with room for
one call less. -/
lemma callsMatch (n height room : Nat) : CallsMatch n height room := by
  induction room with
  | zero =>
    intro m m' _ _ c id args why ha hw s t pair
    have ends := callFunction_ends_of (i := .within m) (j := .within m') pair id ha hw ?_
    · rw [spending_infos] at ends
      exact ends
    · intro _
      obtain ⟨rfl, leaves⟩ := pair.holds
      exact .noRoom pair leaves.isFull leaves.isFull rfl trivial hw
  | succ room ih =>
    intro m m' hm hm' c id args why ha hw s t pair
    rw [callSteps_succ] at hm hm'
    have inner := ih.insides (Nat.le_succ height) hm hm'
    have ends := callFunction_ends_of (i := .within m) (j := .within m') pair id ha hw ?_
    · rw [spending_infos] at ends
      exact ends
    · intro _
      obtain ⟨⟨-, known⟩, bodies⟩ := pair.functionAt id
      obtain ⟨rfl, leaves⟩ := pair.holds
      cases full : s.calls.isFull with
      | true => exact .noRoom pair full full rfl trivial hw
      | false =>
        refine .inRoom (spending n height room).holds pair known full full
          ⟨rfl, leaves.enter _⟩ ?_ (runFunction_sim inner bodies ha hw pair.known.global)
        intro d s' t' _ pair'
        obtain ⟨rfl, -⟩ := pair'.holds
        exact ⟨rfl, leaves⟩

end Comparison

open Comparison

/-- In a new session there is room for as many calls as the limit allows. -/
lemma startWithin_leaves (n : Nat) (config : Config) (console : Console) :
    (Session.startWithin (some n) config console).calls.Leaves n n :=
  ⟨(startWithin_bounded n config console).limit, Nat.le_add_left _ _⟩

/-- The bodies of built-in methods are one statement high. -/
lemma startWithin_bodies (height : Nat) (limit : Option Nat) (config : Config)
    (console : Console) : ∀ function ∈ (Session.startWithin limit config console).functions,
      ∀ stmt ∈ function.body, stmt.LooplessBelow (height + 1) := by
  refine start_bodies (fun method params => ?_) _ console
  exact ⟨.intro not_false nofun nofun, Nat.le_add_left 1 height⟩

/-- How many steps suffice to run a program without loops that a condition ends, while at most
`n` calls may be in progress. -/
def Program.steps (n : Nat) (program : Program) : Nat := (n + 1) * (program.height + 2)

/-- In a new session with a limit of `n` calls, a program without loops that a condition ends comes
to an end, and no larger number of steps changes that end; if it is a failure, it is not because
the graph of reasons has refused to explain anything. All the while every walk through the scopes
and through the classes leads to older ones, and ends as well. -/
theorem loopless_terminates (config : Config) (console : Console) (program : Program) (n : Nat)
    (loopless : program.Loopless) :
    (∃ o, o ≠ .exhausted ∧
      (∀ failure s, o = .failed failure s → ∀ cause, failure.fault ≠ .graph cause) ∧
      ∀ steps, program.steps n ≤ steps →
        runProgram (.within steps) program (.startWithin (some n) config console) = o) ∧
    ∀ steps, (Session.startWithin (some n) config console).Throughout steps program
      fun _ now => now.Rooted := by
  have low : ∀ stmt ∈ program, stmt.LooplessBelow (program.height + 1) :=
    fun stmt mem => ⟨loopless stmt mem, Nat.le_succ_of_le (Stmt.height_le_heights mem)⟩
  have pair := spending_pair (startWithin_leaves n config console)
    (startWithin_bodies program.height (some n) config console)
  have enough : callSteps (program.height + 1) n + (program.height + 1) + 1 = program.steps n :=
    (callSteps_succ _ n).symm
  have ends {steps : Nat} (le : program.steps n ≤ steps) :
      runProgram (.within steps) program (.startWithin (some n) config console) =
          runProgram (.within (program.steps n)) program (.startWithin (some n) config console) ∧
        runProgram (.within (program.steps n)) program (.startWithin (some n) config console) ≠
          .exhausted := by
    have insides := CallsMatch.insides (callsMatch n (program.height + 1) n) (Nat.le_succ _)
      (Nat.le_of_eq enough) (Nat.le_trans (Nat.le_of_eq enough) le)
    exact spending_eq (runProgram_sim insides program low _ _ pair)
  have reachable := Session.Reachable.start { config with maxDepth := some n } console
  refine ⟨⟨_, (ends (Nat.le_refl _)).2, ?_, fun steps le => (ends le).1⟩, ?_⟩
  · exact fun failure s fails => reachable.sound.fault_ne_graph fails
  · exact fun steps => reachable.rooted_throughout steps program

/-- A function that calls itself in a loop over a list which grows meanwhile. -/
def growing : Program :=
  [.declareFunction .builtin ⟨"grow", ["items"],
    [.forEach .builtin "item" (.get .builtin "items")
      [.effect .builtin (.methodCall .builtin (.get .builtin "items") "append"
        [.get .builtin "item"]),
       .effect .builtin (.call .builtin "grow" [.get .builtin "items"])]], .builtin⟩,
   .effect .builtin (.call .builtin "grow" [.range .builtin (.num .builtin 0)
     (.num .builtin 2)])]

/-- With three calls at once, that needs no more than 28 steps. -/
theorem loopless_terminates_of_growing :
    growing.Loopless ∧ growing.steps 3 = 28 ∧
      ∃ o, o ≠ .exhausted ∧ ∀ steps, growing.steps 3 ≤ steps →
        runProgram (.within steps) growing (.startWithin (some 3) {} {}) = o := by
  have expr : ∀ expr : Expr, expr.Everywhere fun _ => True :=
    Expr.everywhere_of_all fun _ => trivial
  have effect (value : Expr) : (Stmt.effect .builtin value).Loopless :=
    .intro not_false (fun _ _ => expr _) nofun
  have loopless : growing.Loopless := by
    intro stmt mem
    simp only [growing, List.mem_cons, List.not_mem_nil, or_false] at mem
    obtain rfl | rfl := mem
    · refine .intro not_false nofun fun inner mem => ?_
      obtain rfl := List.mem_singleton.1 mem
      refine .intro not_false (fun _ _ => expr _) fun inner mem => ?_
      simp only [Stmt.inside, List.mem_cons, List.not_mem_nil, or_false] at mem
      obtain rfl | rfl := mem
      · exact effect _
      · exact effect _
    · exact effect _
  obtain ⟨⟨o, ends, -, same⟩, -⟩ := loopless_terminates {} {} growing 3 loopless
  exact ⟨loopless, by decide, o, ends, same⟩

end Because
