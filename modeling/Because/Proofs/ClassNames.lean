import Because.Proofs.Orderly.Kept

/-!
# Names of classes

A class is found by the global variable that has its name, and objects of built-in classes are made
by these names wherever a program computes a text, a number, a truth value or a list. No declaration
takes the name of a class away, and neither does a call, a loop or a parameter of the same name. An
assignment does: global variables with the names of classes are variables like all others. It is
recorded as the reason of the new value, so that the session tells which names still mean what they
did.
-/

namespace Because

open Session Comparison

namespace Session

variable {s s' now : Session} {since : Nat} {name : String} {id : ClassId}

/-- The global variable has been assigned, when there were at least so many reasons. -/
abbrev Reassigned (s : Session) (since : Nat) (name : String) : Prop :=
  s.Assigned since globalScope name (· = name)

/-- The name still means the class, which has kept all but its methods, unless the program has
assigned to the global variable. -/
structure StillNames (s now : Session) (name : String) (id : ClassId) : Prop where
  lookup : now.lookupClass? name = some id ∨ now.Reassigned s.graph.size name
  same : now.classAt id = { s.classAt id with methods := (now.classAt id).methods }

/-- All names of classes still mean what they did. -/
def KeepsNames (s now : Session) : Prop :=
  ∀ name id, s.lookupClass? name = some id → s.StillNames now name id

/-- A name means a class if the global scope binds it to this class. -/
lemma lookupClass_iff : s.lookupClass? name = some id ↔
    ∃ why, s.scopes.local? globalScope name = some ⟨.classRef id, why⟩ := by
  unfold lookupClass? global?
  split
  · rename_i other why found
    rw [found]
    constructor
    · rintro ⟨⟩
      exact ⟨why, rfl⟩
    · rintro ⟨_, ⟨⟩⟩
      rfl
  · rename_i other
    exact ⟨nofun, fun ⟨why, found⟩ => absurd found (other id why)⟩

/-- What is known of a session that has come out of another one by changes: its global scope is no
object, there are no fewer reasons, and each global variable has its value or has been assigned. -/
structure Globals (s now : Session) : Prop where
  made : 0 < now.scopes.size
  untagged : now.kind? globalScope = none
  recorded : s.graph.size ≤ now.graph.size
  kept : ∀ name info, s.scopes.local? globalScope name = some info →
    now.scopes.local? globalScope name = some info ∨ now.Reassigned s.graph.size name
  classes : ∀ id : Nat, id < s.classes.size → id < now.classes.size ∧
    now.classAt id = { s.classAt id with methods := (now.classAt id).methods }

/-- A session that is in order has its own global variables. -/
lemma InOrder.globals (h : s.InOrder) : s.Globals s where
  made := h.global.made
  untagged := by rw [kind?, h.global.untagged, Option.map_none]
  recorded := Nat.le_refl _
  kept _ _ found := .inl found
  classes _ lt := ⟨lt, rfl⟩

/-- The record of an assignment to a global variable shows its name. -/
lemma Globals.shows (h : s.Globals now) (name what : String)
    (shows : now.Shows globalScope name what) : what = name :=
  shows.global (Option.map_eq_none_iff.1 h.untagged) rfl

/-- No change makes a global variable another one, but for an assignment, which is recorded. -/
lemma globals_kept (s : Session) : Kept s.Globals := by
  intro now now' change h
  refine ⟨Nat.lt_of_lt_of_le h.made change.scopes_size, (change.kind_old h.made).trans h.untagged,
    Nat.le_trans h.recorded change.recorded.size, fun name info found => ?_, fun id lt => ?_⟩
  · obtain same | assigned := h.kept name info found
    · exact change.binding same h.recorded (h.shows name)
    · exact .inr (assigned.change change h.recorded (h.shows name))
  · obtain ⟨lt, same⟩ := h.classes id lt
    exact ⟨Nat.lt_of_lt_of_le lt change.classes_size, by rw [change.classAt lt, same]⟩

/-- As long as the global variables are kept, so are the names of classes. -/
lemma Globals.keepsNames (h : s.Globals now) (inOrder : s.InOrder) : s.KeepsNames now := by
  intro name id found
  obtain ⟨why, bound⟩ := lookupClass_iff.1 found
  refine ⟨(h.kept name _ bound).imp_left fun same => lookupClass_iff.2 ⟨why, same⟩, ?_⟩
  exact (h.classes id (inOrder.lookupClass found)).2

/-! ## Built-in classes -/

/-- Every built-in class is meant by its name, unless the program has assigned to the global
variable. -/
def KnowsBuiltins (s : Session) : Prop :=
  ∀ builtin : Builtin, ∃ id, (s.classAt id).builtin = some builtin ∧
    (s.lookupClass? builtin.name = some id ∨ s.Reassigned 0 builtin.name)

/-- The session with other limits, and with other lines to read. -/
def under (config : Config) (console : Console) (s : Session) : Session :=
  { s with config, console, calls := { s.calls with limit := config.maxDepth } }

/-- The action does the same, whatever the limits are and whatever there is to read. -/
def Indifferent {ε α : Type} (action : Action ε α) : Prop :=
  ∀ config console s, action (s.under config console) =
    match action s with
    | .done x s' => .done x (s'.under config console)
    | .failed e s' => .failed e (s'.under config console)
    | .exhausted => .exhausted

namespace Indifferent

variable {ε α β : Type}

/-- Actions in sequence are indifferent if the first one is, and what follows each result is. -/
lemma bind {a : Action ε α} {f : α → Action ε β} (first : Indifferent a)
    (next : ∀ x, Indifferent (f x)) : Indifferent (a >>= f) := by
  intro config console s
  simp only [Bind.bind, first config console s]
  cases a s with
  | done x s' => exact next x config console s'
  | failed | exhausted => rfl

/-- Declaring a name is indifferent. -/
lemma declare (i : ScopeId) (name : String) (info : Justified) :
    Indifferent (Action.declare i name info) := by
  intro config console s
  simp only [Action.declare, under]
  cases s.scopes.declare i name info <;> rfl

/-- Work for each item of a list is indifferent if it is so for each of them. -/
lemma forM (xs : List α) {f : α → Action ε PUnit} (each : ∀ x, Indifferent (f x)) :
    Indifferent (xs.forM f) := by
  induction xs with
  | nil => exact fun _ _ _ => rfl
  | cons x rest ih => exact (each x).bind fun _ => ih

/-- The declaration of a built-in class is indifferent. -/
lemma declareBuiltin (builtin : Builtin) : Indifferent (declareBuiltin builtin) := by
  have method (id : ClassId) (scope : ScopeId) (name : String) (params : List String) :
      Indifferent (declareBuiltinMethod id scope name params) := by
    refine .bind (fun _ _ _ => rfl) fun function => .bind (fun _ _ _ => rfl) fun why => ?_
    exact .bind (.declare _ _ _) fun _ _ _ _ => rfl
  refine .bind (fun _ _ _ => rfl) fun scope => .bind (fun _ _ _ => rfl) fun id => ?_
  refine .bind (fun _ _ _ => rfl) fun _ => .bind (fun _ _ _ => rfl) fun why => ?_
  exact .bind (.declare _ _ _) fun _ => .forM _ fun entry => method id scope entry.1 entry.2

end Indifferent

/-- All new sessions are the same but for their limits and what there is to read. -/
lemma start_eq_under (config : Config) (console : Console) :
    start config console = (start {} {}).under config console := by
  have declares := Indifferent.forM Builtin.all Indifferent.declareBuiltin config console
    (blank {} {})
  rw [start_eq, start_eq]
  change ((Builtin.all.forM declareBuiltin ((blank {} {}).under config console)).session?.getD
    ((blank {} {}).under config console)) = _
  rw [declares]
  cases Builtin.all.forM declareBuiltin (blank {} {}) <;> rfl

/-- A new session knows each built-in class by its name. -/
lemma start_lookup (config : Config) (console : Console) (builtin : Builtin) :
    ∃ id, (start config console).lookupClass? builtin.name = some id ∧
      ((start config console).classAt id).builtin = some builtin := by
  have known : ∀ builtin ∈ Builtin.all,
      (start {} {}).lookupClass? builtin.name = some (Builtin.all.idxOf builtin) ∧
      ((start {} {}).classAt (Builtin.all.idxOf builtin)).builtin = some builtin := by
    decide +kernel
  have same (s : Session) : (s.under config console).lookupClass? builtin.name =
      s.lookupClass? builtin.name := rfl
  have sameClass (s : Session) (id : ClassId) : (s.under config console).classAt id =
      s.classAt id := rfl
  obtain ⟨meant, isBuiltin⟩ := known builtin (by cases builtin <;> decide)
  refine ⟨Builtin.all.idxOf builtin, ?_, ?_⟩
  · rw [start_eq_under, same, meant]
  · rw [start_eq_under, sameClass, isBuiltin]

/-- A session that can come about has come out of a new one. -/
lemma Reachable.of_start (h : s.Reachable) :
    ∃ config console, (Session.start config console).Course s := by
  induction h with
  | start config console => exact ⟨config, console, .refl⟩
  | run reachable leads ih =>
    obtain ⟨config, console, course⟩ := ih
    exact ⟨config, console, course.trans (reachable.inOrder.leads leads).2⟩

/-- What has come out of a new session knows the built-in classes that it knew. -/
lemma Globals.knowsBuiltins {config : Config} {console : Console}
    (h : (start config console).Globals now) : now.KnowsBuiltins := by
  intro builtin
  obtain ⟨id, meant, isBuiltin⟩ := start_lookup config console builtin
  have names := h.keepsNames (start_orderly config console) builtin.name id meant
  refine ⟨id, by rw [names.same, isBuiltin], names.lookup.imp_right ?_⟩
  rintro ⟨info, node, what, text, calling, values, found, -, assigned⟩
  exact ⟨info, node, what, text, calling, values, found, Nat.zero_le _, assigned⟩

/-! ## Objects -/

/-- An object that is asked for by the name of a class is of the class that the name means then, and
if this class is a built-in one, the object has its state. -/
def MakesNamed (s : Session) : Prop :=
  ∀ steps className args why info later, Justified.AllFit s args →
    (Because.newObject (.within steps) className args why s = .done info later ∨
      Because.newHiddenObject (.within steps) className args why s = .done info later) →
    ∃ id, s.lookupClass? className = some id ∧ later.classOf? info.value = some id ∧
      ∀ builtin, (s.classAt id).builtin = some builtin →
        ∃ handle, later.handle? info.value = some handle ∧ handle.builtin = builtin

/-- What is new is of the class that has been meant. -/
lemma makes_named_of_leads {R : Regime} {v : List ScopeId} {className : String}
    {info : Justified} {later : Session} {ends : Outcome Failure Justified} (inOrder : s.InOrder)
    (leads : R.Leads v Failure.Calm (fun info now => s.Builds className info now) s ends)
    (made : ends = .done info later) :
    ∃ id, s.lookupClass? className = some id ∧ later.classOf? info.value = some id ∧
      ∀ builtin, (s.classAt id).builtin = some builtin →
        ∃ handle, later.handle? info.value = some handle ∧ handle.builtin = builtin := by
  subst made
  cases leads with
  | done good grown built =>
    have orderly := good.orderly
    have fits := built.fits
    obtain ⟨id, meant, -, value, kind⟩ := built
    have ofClass := value ▸ classOf_of_kind kind
    refine ⟨id, meant, ofClass, fun builtin isBuiltin => ?_⟩
    refine orderly.handle_of_instance fits ⟨id, ofClass, orderly.rooted.mem_lineage_self id⟩ ?_
    rw [grown.grows.classAt id (inOrder.lookupClass meant)]
    exact isBuiltin

/-- In a session that is in order, objects are of the class that they are asked for by. -/
lemma InOrder.makesNamed (h : s.InOrder) : s.MakesNamed := by
  intro steps className args why info later fit made
  have inside : (Inner.within steps).Regular (Regime.plain fun _ => True) :=
    Regime.plain_within steps
  obtain made | made := made
  · exact makes_named_of_leads h (Regime.newObject_builds inside h.good className fit) made
  · exact makes_named_of_leads h (Regime.newHiddenObject_builds inside h.good className fit) made

/-- Whatever is run in the session, all names of classes go on to mean what they did. -/
structure NamesLast (s : Session) : Prop where
  expr : ∀ expr why, s.KeepsThrough s.KeepsNames (evalExpr · expr why)
  stmt : ∀ stmt why, s.KeepsThrough s.KeepsNames (execStmt · stmt why)
  call : ∀ f args why, Nat.lt f s.functions.size → Justified.AllFit s args →
    s.KeepsThrough s.KeepsNames (Because.callFunction · f args why)
  program : ∀ program, s.KeepsThrough s.KeepsNames (Because.runProgram · program)

/-- In a session that is in order, whatever runs keeps the names of classes. -/
lemma InOrder.namesLast (h : s.InOrder) : s.NamesLast where
  expr expr why := (h.keeps_expr (globals_kept s) h.globals expr why).mono
    (steady_evalExpr expr why) fun _ globals => globals.keepsNames h
  stmt stmt why := (h.keeps_stmt (globals_kept s) h.globals stmt why).mono
    (steady_execStmt stmt why) fun _ globals => globals.keepsNames h
  call f args why lt fit := (h.keeps_call (globals_kept s) h.globals lt fit why).mono
    (steady_callFunction f args why) fun _ globals => globals.keepsNames h
  program program := (h.keeps_program (globals_kept s) h.globals program).mono
    (steady_runProgram program) fun _ globals => globals.keepsNames h

/-- In sessions that can come about, a name that means a class goes on to mean this class, at every
moment of all later runs, until the program assigns to the global variable; and this holds of the
built-in classes from the start. From any moment on the same may be said of what runs next, and all
objects that are asked for by a name are of the class that it means. -/
theorem Reachable.names_kept (h : s.Reachable) :
    s.KnowsBuiltins ∧
    (∀ s', Relation.ReflTransGen LeadsTo s s' → s.KeepsNames s' ∧
      ∀ program, s'.KeepsThrough (fun now => s.KeepsNames now ∧ now.KnowsBuiltins)
        (Because.runProgram · program)) ∧
    ∀ now : Session, now.InOrder → now.NamesLast ∧ now.MakesNamed := by
  have inOrder := h.inOrder
  obtain ⟨config, console, course⟩ := h.of_start
  have started := course.kept (globals_kept _) (InOrder.globals (start_orderly config console))
  refine ⟨started.knowsBuiltins, fun s' leads => ?_, fun now inOrder =>
    ⟨inOrder.namesLast, inOrder.makesNamed⟩⟩
  obtain ⟨inOrder', course'⟩ := inOrder.leadsOn leads
  have both : Kept fun now => s.Globals now ∧ (Session.start config console).Globals now :=
    fun _ _ change => And.imp (globals_kept _ change) (globals_kept _ change)
  have holds := course'.kept both ⟨inOrder.globals, started⟩
  refine ⟨holds.1.keepsNames inOrder, fun program => ?_⟩
  exact (inOrder'.keeps_program both holds program).mono (steady_runProgram program)
    fun _ ⟨globals, started⟩ => ⟨globals.keepsNames inOrder, started.knowsBuiltins⟩

/-- A class that is declared in a new session. -/
theorem Reachable.names_kept_of_start :
    (Session.start {} {}).Reachable ∧ (Session.start {} {}).KnowsBuiltins ∧
    (Session.start {} {}).KeepsThrough (Session.start {} {}).KeepsNames
      (Because.runProgram · [.declareClass .builtin ⟨"Name", some "String", [], []⟩]) := by
  have reachable := Reachable.start {} {}
  obtain ⟨known, -, inside⟩ := reachable.names_kept
  exact ⟨reachable, known, (inside _ reachable.inOrder).1.program _⟩

/-- A program that assigns to the variable by which the texts of a program are made. -/
def hijacker : Program := [.assign .builtin "String" (.get .builtin "List")]

/-- A name need not mean the class that it has meant: after an assignment `String` means the class of
lists. -/
theorem hijacker_renames : (start {} {}).Reachable ∧ ∃ s id other,
    (start {} {}).LeadsTo s ∧ (start {} {}).lookupClass? "String" = some id ∧
      s.lookupClass? "String" = some other ∧ other ≠ id := by
  have runs : ((Because.runProgram (.within 4) hijacker (start {} {})).session?.map fun s =>
      s.lookupClass? "String") = some (some 1) := by
    decide +kernel
  obtain ⟨s, left, meant⟩ := Option.map_eq_some_iff.1 runs
  refine ⟨.start {} {}, s, 0, 1, ⟨4, hijacker, left⟩, ?_, meant, Nat.one_ne_zero⟩
  decide +kernel

end Session

end Because
