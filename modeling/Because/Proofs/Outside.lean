import Because.Proofs.Execution

/-!
# Between the statements of a program

Between two statements of a program, a session is outside of all calls and blocks. The variables
that the program declares come on top of those that a new session has.
-/

namespace Because

namespace Session

variable {s s' now : Session} {config : Config} {console shown : Console} {taken taken' : List String}
  {steps : Nat} {name : String} {why : ReasonId} {P : Value → Session → Prop} {expr : Expr}
  {i : ScopeId}

/-! ## New sessions -/

/-- No call is in progress in a new session, and its limit is that of the configuration. -/
lemma start_calls (config : Config) (console : Console) :
    (start config console).calls = { limit := config.maxDepth } := by
  have none : (start {} {}).calls.frames = [] := by
    decide +kernel
  rw [start_eq_under, under]
  dsimp only
  rw [none]

/-- In a new session only the global scope has been entered. -/
lemma start_entered (config : Config) (console : Console) :
    (start config console).entered = [globalScope] := by
  have outside : (start {} {}).entered = [globalScope] := by
    decide +kernel
  rw [start_eq_under, under, outside]

/-- The start of a session prints nothing and reads nothing. -/
lemma start_console (config : Config) (console : Console) :
    (start config console).console = console := by
  rw [start_eq_under]
  rfl

/-- A new session can be used. -/
lemma start_usable (config : Config) (console : Console) : (start config console).Usable where
  toHealthy := (Reachable.start config console).healthy
  names builtin := by
    have known : ∀ builtin ∈ Builtin.all, (start {} {}).Names builtin := by
      decide +kernel
    have same (s : Session) : (s.under config console).Names builtin ↔ s.Names builtin := Iff.rfl
    rw [start_eq_under, same]
    exact known builtin (by cases builtin <;> decide)

/-! ## Sessions outside of all calls -/

/-- The variables of the global scope that have one of these names. -/
def globals (names : List String) : Places := fun i name => i = globalScope ∧ name ∈ names

/-- The session is outside of all calls and blocks. In its global scope, only some names are
taken, those of the built-in classes among them. -/
structure Outside (s : Session) (config : Config) (taken : List String) (console : Console) :
    Prop extends s.Usable where
  entered : s.entered = [globalScope]
  calls : s.calls = { limit := config.maxDepth }
  shows : s.console = console
  builtins : ∀ builtin : Builtin, builtin.name ∈ taken
  free : ∀ name ∉ taken, s.scopes.binds globalScope name = false

/-- Outside of all calls there is always as much room for them. -/
lemma Outside.same_calls {config : Config} {taken taken' : List String} {console console' : Console}
    (h : s.Outside config taken console) (h' : s'.Outside config taken' console') :
    s'.calls = s.calls := h'.calls.trans h.calls.symm

/-- A new session is outside all calls, with the names of the built-in classes taken. -/
lemma start_outside (config : Config) (console : Console) :
    (start config console).Outside config (Builtin.all.map Builtin.name) console where
  toUsable := start_usable config console
  entered := start_entered config console
  calls := start_calls config console
  shows := start_console config console
  builtins builtin := List.mem_map_of_mem (by cases builtin <;> decide)
  free name new := by
    have known : ((start {} {}).scopes.scopeAt globalScope).bindings.keys =
        Builtin.all.map Builtin.name := by
      decide +kernel
    rw [start_eq_under, under, Scopes.binds, Assoc.contains_eq]
    dsimp only
    rw [known, decide_eq_false_iff_not]
    exact new

namespace Outside

section

variable {more : List String} {written : Places} {restated : ScopeId → Prop}
  (h : s.Outside config taken console)

include h

/-- Outside all calls the global scope is the current one. -/
lemma currentScope : s.currentScope = globalScope := by
  rw [Session.currentScope, h.entered]
  rfl

/-- What is written in the current scope is a variable of the global one. -/
lemma writes_global {s' s'' : Session} (alters : s'.Alters
      (fun j other => j = s.currentScope ∧ other = name) (fun _ => False) s'') :
    s'.Alters (globals [name]) (fun _ => False) s'' :=
  alters.widen (fun _ _ _ wrote => ⟨wrote.1.trans h.currentScope, List.mem_singleton.2 wrote.2⟩)
    fun _ _ => id

/-- Names that had been free may have been taken since. -/
lemma after (healthy : s'.Healthy) (alters : s.Alters written restated s')
    (only : ∀ name, written globalScope name → name ∈ more) (new : ∀ name ∈ more, name ∉ taken)
    (same : s.SameStacks s') (shows : s'.console = shown) :
    s'.Outside config (more ++ taken) shown where
  toUsable := h.toUsable.after healthy alters fun builtin wrote =>
    new _ (only _ wrote) (h.builtins builtin)
  entered := same.entered.trans h.entered
  calls := same.calls.trans h.calls
  shows := shows
  builtins builtin := List.mem_append_right _ (h.builtins builtin)
  free name other := by
    rw [List.mem_append, not_or] at other
    have same := alters.locals globalScope name h.works.made fun wrote => other.1 (only name wrote)
    exact (congrArg Option.isSome same).trans (h.free name other.2)

/-- Other names go on to mean what they mean. -/
lemma meaning? (alters : s.Alters (globals more) restated s') (h' : s'.Outside config taken' shown)
    (other : name ∉ more) (means : s.meaning? name = some (.object i)) :
    s'.meaning? name = some (.object i) :=
  (h.apt.meaning? alters ⟨h'.entered.trans h.entered.symm, h'.calls.trans h.calls.symm⟩
    fun _ _ wrote => other wrote.2).trans means

/-- A program goes on with the next statement once the first one has been executed, because it is in
the program. -/
lemma next_tells (steps : Nat) {stmt : Stmt} (rest : Program) {R : Session → Prop}
    (runs : ∀ now, now.Outside config taken console →
      s.Adduces (.text s!"{stmt.text} is in my program") [] now →
      ∃ s', Because.exec steps stmt s.graph.size now = .done .normal s' ∧ R s') :
    ∃ s', R s' ∧ Because.runProgram (.within steps) (stmt :: rest) s =
      Because.runProgram (.within steps) rest s' :=
  h.toHealthy.next fun now healthy records => by
    have quiet := Quiet.of_notes records.toNotes
    have nothing := (Adds.of_notes records.toNotes).alters (globals []) fun _ => False
    exact runs now (h.after healthy nothing (fun _ => And.right) (List.forall_mem_nil _)
      quiet.toSameStacks (quiet.console.trans h.shows)) records

/-- What is recorded for the statement does not matter to most of them. -/
lemma next (steps : Nat) {stmt : Stmt} (rest : Program) {R : Session → Prop}
    (runs : ∀ now why, now.Outside config taken console → s.Notes now →
      Nat.lt why now.graph.size → ∃ s', Because.exec steps stmt why now = .done .normal s' ∧ R s') :
    ∃ s', R s' ∧ Because.runProgram (.within steps) (stmt :: rest) s =
      Because.runProgram (.within steps) rest s' :=
  h.next_tells steps rest fun now top records => runs now _ top records.toNotes records.fresh

/-- A program declares a variable, which gets its value. -/
lemma declares (steps : Nat) (new : name ∉ taken) (stays : Stays P)
    (evaluates : ∀ now, now.Outside config (name :: taken) console →
      s.Alters (globals [name]) (fun _ => False) now → now.Evaluates steps expr P)
    (loc : Location) (rest : Program) :
    ∃ i s', s'.Outside config (name :: taken) console ∧
      s.Alters (globals [name]) (fun _ => False) s' ∧
      s'.meaning? name = some (.object i) ∧ P (.object i) s' ∧
      Because.runProgram (.within (steps + 1)) (.declare loc name expr :: rest) s =
        Because.runProgram (.within (steps + 1)) rest s' := by
  obtain ⟨s', ⟨i, outside, alters, means, holds⟩, runs⟩ :=
    h.next (steps + 1) rest (R := fun s' => ∃ i, s'.Outside config (name :: taken) console ∧
      s.Alters (globals [name]) (fun _ => False) s' ∧ s'.meaning? name = some (.object i) ∧
      P (.object i) s') fun s1 why top notes recorded => by
    have adds := Adds.of_notes notes
    have later {s' : Session} (healthy : s'.Healthy) (alters : s1.Alters
        (fun j other => j = s1.currentScope ∧ other = name) (fun _ => False) s')
        (quiet : s1.Quiet s') : s'.Outside config (name :: taken) console :=
      top.after healthy (top.writes_global alters) (fun _ => And.right)
        (List.forall_mem_singleton.2 new) quiet.toSameStacks (quiet.console.trans top.shows)
    obtain ⟨i, w, s', done, healthy, alters, quiet, found, holds⟩ :=
      top.toHealthy.declare recorded (top.currentScope ▸ top.free name new) stays
        (fun now healthy alters quiet =>
          evaluates now (later healthy alters quiet)
            ((adds.alters _ _).trans (top.writes_global alters)) why
            (Nat.lt_of_lt_of_le recorded alters.graph)) loc
    have means : s'.meaning? name = some (.object i) :=
      meaning_of_local (quiet.toSameStacks.currentScope ▸ found)
    exact ⟨s', done, i, later healthy alters quiet,
      (adds.alters _ _).trans (top.writes_global alters), means, holds⟩
  exact ⟨i, s', outside, alters, means, holds, runs⟩

/-- A text is printed, once it has been given. -/
lemma print {text : String} {w : ReasonId} {s1 : Session} (recorded : Nat.lt why s.graph.size)
    (given : s.GivenAs (Is (Handle.text text)) (Because.eval steps expr why s) i w s1)
    (loc : Location) :
    ∃ s', Because.exec (steps + 1) (.print loc expr) why s = .done .normal s' ∧
      s'.Outside config taken (console.printLine text) ∧ s1.Adds s' := by
  obtain ⟨s', done, healthy, adds, same, shows⟩ := h.toHealthy.print recorded given loc
  refine ⟨s', done, h.after healthy ((given.adds.trans adds).alters (globals []) fun _ => False)
    (fun _ => And.right) (List.forall_mem_nil _) same ?_, adds⟩
  rw [shows, h.shows]

end

end Outside

end Session

end Because
