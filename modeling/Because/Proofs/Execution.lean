import Because.Proofs.Collections
import Because.Proofs.Snapshots

/-!
# How statements are executed

What comes of executing a statement in a healthy session follows from what comes of evaluating its
expressions. A loop keeps up an invariant over the items that are left to visit, if each of its
passes does.
-/

namespace Because

open Comparison

/-- What a declaration does before it assigns matches itself. -/
lemma makeVariable_sim {C : Comparison} [C.Lawful] {c : Census} (name : String) {why : ReasonId}
    (hw : c.reason why) :
    C.Sim C.failures c Same (makeVariable name why) (makeVariable name (C.rename why)) := by
  unfold makeVariable
  apply Sim.bind_known (.text _)
  intro d default le own
  apply Sim.bind_known .currentScope
  intro d1 current le1 hs
  have known : Justified.In d1 (.none default) := .none (le1.reason own.reason)
  exact .withReason ((le.trans le1).reason hw) (.declare name (.inl hs) known)

/-- A loop visits only values that fit, if the state that it is over fits. -/
lemma Handle.Fits.items {s : Session} {handle : Handle} {items : List Justified}
    (fits : handle.Fits s) (visits : handle.items? = some items) : Justified.AllFit s items := by
  cases handle with
  | list =>
    cases visits
    exact fits
  | dict entries =>
    cases visits
    intro key mem
    obtain ⟨entry, held, rfl⟩ := List.mem_map.1 mem
    exact (fits entry held).1
  | _ => cases visits

namespace Session

variable {s s' now : Session} {steps : Nat} {name : String} {loc : Location} {why : ReasonId}
  {P Q : Value → Session → Prop} {i : ScopeId} {expr : Expr} {body : List Stmt}

/-! ## What names mean -/

/-- A variable of a scope is found there first. -/
lemma tryGet_of_local {info : Justified} (found : s.scopes.local? i name = some info) :
    s.scopes.tryGet i name = some info := by
  rw [tryGet_eq, Scopes.chain, Scopes.chainFrom, List.findSome?_cons, found]

/-- What the current scope binds a name to is what the name means. -/
lemma meaning_of_local {info : Justified}
    (found : s.scopes.local? s.currentScope name = some info) :
    s.meaning? name = some info.value := by
  rw [meaning?, tryGet_of_local found]
  rfl

/-- In a new block, names mean what they mean around it. -/
lemma InOrder.inBlock_meaning? (h : s.InOrder) (description name : String) :
    (s.inBlock description).meaning? name = s.meaning? name := by
  have good : (Regime.plain fun _ => True).Good s := ⟨h, trivial⟩
  have new : (s.inBlock description).scopes.local? s.scopes.size name = none := by
    rw [Scopes.local?, Session.inBlock, scopeAt_withScope, if_pos rfl]
    rfl
  have old (j : ScopeId) (mem : j ∈ s.visible) :
      (s.inBlock description).scopes.local? j name = s.scopes.local? j name := by
    have ne : j ≠ s.scopes.size := Nat.ne_of_lt (h.visible_ordinary j mem).made
    rw [Scopes.local?, Session.inBlock, scopeAt_withScope, if_neg ne, ← Scopes.local?]
  have visible := good.visible_inBlock description
  rw [Session.visible] at visible
  rw [meaning?, tryGet_eq, visible, List.findSome?_cons, new, meaning?, tryGet_eq]
  exact congrArg (Option.map _) (findSome?_congr old)

/-- A new block only adds a scope. -/
lemma inBlock_adds (s : Session) (description : String) : s.Adds (s.inBlock description) where
  graph := Nat.le_refl _
  scopes := Nat.le.intro (Scopes.size_push ..).symm
  old _ lt := (scopeAt_withScope ..).trans (if_neg (Nat.ne_of_lt lt))
  classes := rfl
  functions := rfl

/-- The session is healthy, and by their names objects of all built-in classes can be made. -/
structure Usable (s : Session) : Prop extends s.Healthy where
  names : ∀ builtin, s.Names builtin

/-- The name of a built-in class goes on to denote it as long as no program gives it to something
else. -/
lemma Alters.names {written : Places} {restated : ScopeId → Prop} {builtin : Builtin}
    (alters : s.Alters written restated s') (works : s.Works)
    (spared : ¬ written globalScope builtin.name) (names : s.Names builtin) : s'.Names builtin := by
  rw [Names, lookupClass?, global?, alters.locals _ _ works.made spared, ← global?, ← lookupClass?]
  exact names

/-- A session stays usable if it stays healthy and no built-in class loses its name. -/
lemma Usable.after {written : Places} {restated : ScopeId → Prop} (h : s.Usable)
    (healthy : s'.Healthy) (alters : s.Alters written restated s')
    (spared : ∀ builtin : Builtin, ¬ written globalScope builtin.name) : s'.Usable where
  toHealthy := healthy
  names builtin := alters.names h.works (spared builtin) (h.names builtin)

/-- The beginning of a loop writes only the variable of the loop. -/
lemma beginLoop_alters (s : Session) (loopScope : ScopeId) (name : String) :
    s.Alters (fun i other => i = loopScope ∧ other = name) (fun _ => False)
      (s.beginLoop loopScope name) := by
  let told : Session :=
    { s with graph := s.graph.push (.text "Initialized by ForEach loop") [] none }
  have notes : s.Notes told := .leaf trivial
  exact ((Adds.of_notes notes).alters _ _).trans (.bind loopScope name (.none s.graph.size) _)

/-- The session in which a variable is there that has no value yet. -/
def withVariable (s : Session) (name : String) : Session :=
  { s with
    graph := s.graph.push (.text "the default variable value is None") [] none
    scopes := s.scopes.bind s.currentScope name (.none s.graph.size) }

/-- The declaration of a variable without a value writes only the variable. -/
lemma withVariable_alters (s : Session) (name : String) :
    s.Alters (fun i other => i = s.currentScope ∧ other = name) (fun _ => False)
      (s.withVariable name) :=
  ((Adds.of_notes (s.records_text _).toNotes).alters _ _).trans
    (.bind s.currentScope name (.none s.graph.size) _)

/-- The declaration of a variable without a value prints nothing and calls nothing. -/
lemma withVariable_quiet (s : Session) (name : String) : s.Quiet (s.withVariable name) :=
  ⟨⟨rfl, rfl⟩, rfl⟩

/-- The value is a String that has the number of a reason, which has been recorded, before a
text. -/
def Marked (shown : String) (value : Value) (s : Session) : Prop :=
  ∃ id : ReasonId, Nat.lt id s.graph.size ∧ Is (Handle.text s!"- (#{id}) {shown}") value s

/-- A text is printed, once it has been given. -/
lemma GivenAs.print {text : String} {w : ReasonId} {s1 : Session}
    (given : s.GivenAs (Is (Handle.text text)) (Because.eval steps expr why s) i w s1)
    (loc : Location) :
    ∃ s', Because.exec (steps + 1) (.print loc expr) why s = .done .normal s' ∧ s1.Adds s' ∧
      s.SameStacks s' ∧ s'.console = s.console.printLine text := by
  obtain ⟨textWhy, found, -⟩ := given.holds
  let s' : Session := { s1 with console := s1.console.printLine text }
  have asks : Action.ask (ε := Failure) (·.textOf? (.object i)) s1 =
      .done (some (text, textWhy)) s1 := by
    simp only [Action.ask, textOf?, found]
  have printable : printableText (.within steps) ⟨.object i, w⟩ why s1 = .done text s1 := by
    rw [printableText, Action.bind_done asks]
    rfl
  have evaluated : (Inner.within steps).eval expr why s = .done ⟨.object i, w⟩ s1 := given.done
  have prints : execPrint (.within steps) expr why s = .done () s' := by
    rw [execPrint, Action.bind_done evaluated, Action.bind_done printable]
    rfl
  have ends : Because.exec (steps + 1) (.print loc expr) why s = .done .normal s' := by
    change (execPrint (.within steps) expr why >>= fun _ => pure Flow.normal) s = _
    rw [Action.bind_done prints]
    rfl
  refine ⟨s', ends, { Adds.refl s1 with }, given.quiet.toSameStacks.trans ⟨rfl, rfl⟩, ?_⟩
  exact congrArg (Console.printLine · text) given.quiet.console

/-! ## Healthy sessions -/

namespace Healthy

section

variable (h : s.Healthy)

include h

/-- A session stays healthy when a statement has been executed. -/
lemma exec {stmt : Stmt} {flow : Flow} (recorded : Nat.lt why s.graph.size)
    (done : Because.exec steps stmt why s = .done flow s') : s'.Healthy ∧ s.SameStacks s' := by
  obtain ⟨healthy, balanced, -⟩ := h.gives ((tracked_insides steps).exec trivial recorded)
    ((within_regular steps).exec why (Stmt.tidy_all (fun _ => trivial) stmt) ⟨h.inOrder, h.equipped⟩)
    done
  exact ⟨healthy, balanced⟩

/-- A session stays healthy when a text is recorded. -/
lemma text (message : String) :
    Healthy { s with graph := s.graph.push (.text message) [] none } := by
  have leads : thriving.Leads [] Failure.Calm Any s (Action.text message s) :=
    .text ⟨h.inOrder, h.equipped⟩ message
  exact (h.gives (.text message) leads rfl).1

/-- A variable of the current scope gets a value, which is recorded under some name. The global
scope has the same name for it. -/
lemma writes {value : Value} {values : List ReasonId}
    (bound : s.scopes.binds s.currentScope name = true) (known : s.graph.Knows (why :: values))
    (lies : value.In s.census) (fits : value.Fits s) (shown text : String) (loc : Location)
    (global : s.currentScope = globalScope → shown = name) :
    ∃ t s', Action.full shown text loc why values s = .done s.graph.size t ∧
      s.Adduces (.full shown text why values) (why :: values) t ∧
      s' = { t with scopes := t.scopes.bind s.currentScope name ⟨value, s.graph.size⟩ } ∧
      Action.assign s.currentScope name ⟨value, s.graph.size⟩ t = .done () s' ∧ s'.Healthy ∧
      s.Alters (fun j other => j = s.currentScope ∧ other = name) (fun _ => False) s' ∧
      s.Quiet s' ∧ s'.scopes.local? s.currentScope name = some ⟨value, s.graph.size⟩ ∧
      s.graph.size < s'.graph.size ∧ s.Later (places (fun _ => True) s.visible) s' ∧
      s.census.Le s'.census := by
  obtain ⟨t, told, records⟩ :=
    @record_records s (.full shown text why values) _ known rfl (some loc)
  have told : Action.full shown text loc why values s = .done s.graph.size t := told
  have notes : s.Notes t := records.toNotes
  let s' : Session := { t with scopes := t.scopes.bind s.currentScope name ⟨value, s.graph.size⟩ }
  have assigns : Action.assign s.currentScope name ⟨value, s.graph.size⟩ t = .done () s' :=
    assign_bound (notes.scopes ▸ bound) _
  have current := h.inOrder.currentScope.made
  obtain ⟨caller, others⟩ := List.forall_mem_cons.1 known
  have done : (Action.full shown text loc why values >>= fun assigned =>
      Action.assign s.currentScope name ⟨value, assigned⟩ : Eval Unit) s = .done () s' := by
    rw [Action.bind_done told, assigns]
  obtain ⟨healthy, -, later, -, d, le, le', -⟩ := h.gives (Q := Same)
    (.bind_known (.full shown text loc caller ⟨(List.map_id _).symm, others⟩)
      fun _ _ le own => .assign name (.inl (le.scope current)) ⟨lies.mono le, own.reason⟩)
    (.bindFrom (.full ⟨h.inOrder, h.equipped⟩ ..) (by
      rintro _ _ - - ⟨rfl, recorded, location, rfl⟩
      refine Regime.assign_leads ⟨h.inOrder, h.equipped⟩ trivial fits recorded fun found => ?_
      rw [Regime.tryFind_self h.inOrder.rooted bound] at found
      exact global (Option.some.inj found))) done
  have alters := ((Adds.of_notes notes).alters
    (fun j other => j = s.currentScope ∧ other = name) fun _ => False).trans
      (.bind s.currentScope name ⟨value, s.graph.size⟩ _)
  have same := Quiet.of_notes notes
  refine ⟨t, s', told, records, rfl, assigns, healthy, alters,
    ⟨⟨same.entered, same.calls⟩, same.console⟩, ?_, records.fresh, later, le.trans le'⟩
  rw [Scopes.local_bind, notes.scopes, if_pos ⟨⟨rfl, current⟩, rfl⟩]

/-- Once an expression has given something, the session is healthy, and what is given fits in. -/
lemma given {w : ReasonId} (recorded : Nat.lt why s.graph.size)
    (given : s.GivenAs P (Because.eval steps expr why s) i w now) :
    now.Healthy ∧ Value.In now.census (.object i) ∧ Value.Fits now (.object i) := by
  obtain ⟨healthy, -, -, lies⟩ := h.eval recorded given.done
  have evaluated : (Inner.within steps).eval expr why s = .done ⟨.object i, w⟩ now := given.done
  obtain ⟨-, -, fit, -⟩ := h.evalArgs recorded (evalArgs_one evaluated)
  exact ⟨healthy, lies.value, fit _ List.mem_cons_self⟩

/-- Of an object comes a String with the number of the reason for it and with what it is shown
as. -/
lemma withId_evaluates (names : s.Names .string) {shown : String}
    (evaluates : s.Evaluates steps expr P) (shows : ∀ value now, P value now →
      now.render value = shown) (loc : Location) :
    s.Evaluates (steps + 1) (.withId loc expr) (Marked shown) := by
  intro why recorded
  obtain ⟨i, w, s1, given⟩ := evaluates why recorded
  obtain ⟨healthy, -⟩ := h.given recorded given
  obtain ⟨node, found⟩ : ∃ node, s1.graph.nodes[w]? = some node :=
    ⟨_, Array.getElem?_eq_getElem given.recorded⟩
  have id : node.id = w := (healthy.sound.ordered w node found).id
  have marks : node.mark ++ s1.render (.object i) = s!"- (#{w}) {shown}" := by
    rw [Node.mark, id, shows _ _ given.holds]
    simp only [toString]
  have asks : Action.ask (ε := Failure) (fun s => s.graph.get w) s1 = .done (.ok node) s1 := by
    simp only [Action.ask, Graph.get, found]
  have renders : Action.render (ε := Failure) (.object i) s1 =
      .done (s1.render (.object i)) s1 := rfl
  have known : s1.graph.Knows (why :: reasons [⟨.str s!"- (#{w}) {shown}", w⟩]) :=
    List.forall_mem_cons.2 ⟨Nat.lt_of_lt_of_le recorded given.adds.graph,
      List.forall_mem_singleton.2 given.recorded⟩
  have makes : Native.construct .string [⟨.str s!"- (#{w}) {shown}", w⟩] =
      Action.ofExcept (.ok (.text s!"- (#{w}) {shown}" w)) := rfl
  obtain ⟨j, made, s2, gives⟩ := (given.apt h.apt).newHiddenObject_gives
    (given.adds.names h.works names) makes rfl known (.within steps)
  have evaluated : (Inner.within steps).eval expr why s = .done ⟨.object i, w⟩ s1 := given.done
  have recorded2 := Nat.lt_of_lt_of_le given.recorded gives.adds.graph
  refine ⟨j, made, s2, ?_, given.adds.trans gives.adds, given.quiet.trans gives.quiet,
    gives.recorded, w, recorded2, w, gives.holds.2.1, recorded2, gives.holds.2.2⟩
  change evalWithId (.within steps) expr why s = _
  rw [evalWithId, Action.bind_done evaluated, Action.bind_done asks]
  dsimp only
  rw [Action.bind_done renders, marks]
  exact gives.done

/-! ## Statements -/

/-- An expression that changes an object is evaluated for its effect. -/
lemma effect (recorded : Nat.lt why s.graph.size) (loc : Location)
    (restates : s.Restates i P (Because.eval steps expr why s)) :
    ∃ s', Because.exec (steps + 1) (.effect loc expr) why s = .done .normal s' ∧ s'.Healthy ∧
      s.Alters (fun _ _ => False) (· = i) s' ∧ s.Quiet s' ∧ P (.object i) s' := by
  obtain ⟨w, s', done, alters, quiet, holds⟩ := restates
  have ends : Because.exec (steps + 1) (.effect loc expr) why s = .done .normal s' := by
    change (Because.eval steps expr why >>= fun _ => pure Flow.normal) s = _
    rw [Action.bind_done done]
    rfl
  exact ⟨s', ends, (h.exec recorded ends).1, alters, quiet, holds⟩

/-- A variable that the current scope does not have is there before it has a value. -/
lemma makesVariable (recorded : Nat.lt why s.graph.size)
    (free : s.scopes.binds s.currentScope name = false) :
    makeVariable name why s = .done () (s.withVariable name) ∧ (s.withVariable name).Healthy := by
  let default := "the default variable value is None"
  let t : Session := { s with graph := s.graph.push (.text default) [] none }
  have makes : makeVariable name why s = .done () (s.withVariable name) := by
    have declares : Action.declare s.currentScope name (.none s.graph.size) t =
        .done () (s.withVariable name) := by
      have freed : t.scopes.binds s.currentScope name = false := free
      simp only [Action.declare, Scopes.declare, freed]
      rfl
    have told : (Action.text default : Eval ReasonId) s = .done s.graph.size t := rfl
    have asks : (Action.currentScope : Eval ScopeId) t = .done s.currentScope t := rfl
    rw [makeVariable, Action.bind_done told, Action.bind_done asks, Action.mapError, declares]
  exact ⟨makes, (h.gives (makeVariable_sim name recorded)
    (Regime.makeVariable_leads ⟨h.inOrder, h.equipped⟩ trivial) makes).1⟩

/-- A variable that is declared gets its value once this has been evaluated. -/
lemma declare_records {w : ReasonId} {s2 : Session} (recorded : Nat.lt why s.graph.size)
    (free : s.scopes.binds s.currentScope name = false)
    (given : (s.withVariable name).GivenAs P (Because.eval steps expr why (s.withVariable name)) i w
      s2) (loc : Location) :
    ∃ t s', s2.Adduces (.full name (s2.render (.object i)) why [w]) [why, w] t ∧
      s' = { t with scopes := t.scopes.bind s.currentScope name ⟨.object i, s2.graph.size⟩ } ∧
      Because.exec (steps + 1) (.declare loc name expr) why s = .done .normal s' ∧ s'.Healthy ∧
      s.Alters (fun j other => j = s.currentScope ∧ other = name) (fun _ => False) s' ∧ s.Quiet s' ∧
      s'.scopes.local? s.currentScope name = some ⟨.object i, s2.graph.size⟩ := by
  obtain ⟨makes, healthy⟩ := h.makesVariable recorded free
  have alters := s.withVariable_alters name
  have quiet := s.withVariable_quiet name
  have current := h.inOrder.currentScope.made
  have recorded1 : Nat.lt why (s.withVariable name).graph.size :=
    Nat.lt_of_lt_of_le recorded alters.graph
  obtain ⟨healthy2, lies, fits⟩ := healthy.given recorded1 given
  have here : s2.currentScope = s.currentScope := by
    rw [given.quiet.toSameStacks.currentScope, quiet.toSameStacks.currentScope]
  have bound : s2.scopes.binds s2.currentScope name = true := by
    have made : Nat.lt s.currentScope (s.withVariable name).scopes.size :=
      Nat.lt_of_lt_of_le current alters.scopes
    rw [here, given.adds.binds made]
    have declared := Scopes.local_bind s.scopes s.currentScope name (.none s.graph.size)
      s.currentScope name
    rw [if_pos ⟨⟨rfl, current⟩, rfl⟩] at declared
    exact congrArg Option.isSome declared
  have known : s2.graph.Knows [why, w] := List.forall_mem_cons.2
    ⟨Nat.lt_of_lt_of_le recorded1 given.adds.graph, List.forall_mem_singleton.2 given.recorded⟩
  obtain ⟨t, s', told, records, same, assigns, healthy', alters', quiet', found, -, -, -⟩ :=
    healthy2.writes bound known lies fits name (s2.render (.object i)) loc fun _ => rfl
  rw [here] at alters' assigns found same
  refine ⟨t, s', records, same, ?_, healthy', (alters.trans (given.adds.alters _ _)).trans alters',
    (quiet.trans given.quiet).trans quiet', found⟩
  have asks : (Action.currentScope : Eval ScopeId) t = .done s.currentScope t := by
    rw [← here, ← (Quiet.of_notes records.toNotes).toSameStacks.currentScope]
    rfl
  have renders : Action.render (ε := Failure) (.object i) s2 =
      .done (s2.render (.object i)) s2 := rfl
  have evaluated : (Inner.within steps).eval expr why (s.withVariable name) =
      .done ⟨.object i, w⟩ s2 := given.done
  have runs : (makeVariable name why >>= fun _ =>
      (Inner.within steps).eval expr why >>= writeVariable name loc why) s = .done () s' := by
    rw [Action.bind_done makes, Action.bind_done evaluated, writeVariable, Action.bind_done renders,
      Action.bind_done told, Action.bind_done asks, Action.mapError, assigns]
  change execStmt (.within steps) (.declare loc name expr) why s = _
  rw [execStmt_declare, Action.bind_done runs]
  rfl

/-- A variable is declared that the current scope does not have, and gets its value, which is
evaluated when the variable is there. -/
lemma declare (recorded : Nat.lt why s.graph.size)
    (free : s.scopes.binds s.currentScope name = false) (stays : Stays P)
    (evaluates : ∀ now, now.Healthy →
      s.Alters (fun j other => j = s.currentScope ∧ other = name) (fun _ => False) now →
      s.Quiet now → now.Gives P (Because.eval steps expr why now)) (loc : Location) :
    ∃ i w s', Because.exec (steps + 1) (.declare loc name expr) why s = .done .normal s' ∧
      s'.Healthy ∧ s.Alters (fun j other => j = s.currentScope ∧ other = name) (fun _ => False) s' ∧
      s.Quiet s' ∧ s'.scopes.local? s.currentScope name = some ⟨.object i, w⟩ ∧
      P (.object i) s' := by
  obtain ⟨-, healthy⟩ := h.makesVariable recorded free
  obtain ⟨i, w, s2, given⟩ :=
    evaluates _ healthy (s.withVariable_alters name) (s.withVariable_quiet name)
  obtain ⟨t, s', records, same, done, healthy', alters, quiet, found⟩ :=
    h.declare_records recorded free given loc
  refine ⟨i, s2.graph.size, s', done, healthy', alters, quiet, found, ?_⟩
  rw [same]
  exact stays (((Adds.of_notes records.toNotes).alters _ _).trans (.bind ..)) given.holds

/-- A text is printed, once it has been given. -/
lemma print {text : String} {w : ReasonId} {s1 : Session} (recorded : Nat.lt why s.graph.size)
    (given : s.GivenAs (Is (Handle.text text)) (Because.eval steps expr why s) i w s1)
    (loc : Location) :
    ∃ s', Because.exec (steps + 1) (.print loc expr) why s = .done .normal s' ∧ s'.Healthy ∧
      s1.Adds s' ∧ s.SameStacks s' ∧ s'.console = s.console.printLine text := by
  obtain ⟨s', ends, adds, same, shows⟩ := given.print loc
  exact ⟨s', ends, (h.exec recorded ends).1, adds, same, shows⟩

/-- A condition chooses the branch that is run. -/
lemma ifElse {truth : Bool} (recorded : Nat.lt why s.graph.size)
    (evaluates : s.Gives (Is (Handle.truth truth)) (Because.eval steps expr why s)) (loc : Location)
    (thenBranch elseBranch : List Stmt) :
    ∃ w s1, s1.Healthy ∧ s.Adds s1 ∧ s.Quiet s1 ∧ Nat.lt w s1.graph.size ∧
      Because.exec (steps + 1) (.ifElse loc expr thenBranch elseBranch) why s =
        runStatements (.within steps) w (if truth then thenBranch else elseBranch) s1 := by
  obtain ⟨i, w, s1, given⟩ := evaluates
  refine ⟨w, s1, (h.given recorded given).1, given.adds, given.quiet, given.recorded, ?_⟩
  have evaluated : (Inner.within steps).eval expr why s = .done ⟨.object i, w⟩ s1 := given.done
  change execIf (.within steps) expr thenBranch elseBranch why s = _
  rw [execIf, Action.bind_done evaluated, Action.bind_done (expectCondition_is expr given.holds)]
  cases truth <;> rfl

/-! ## Blocks -/

/-- When a block is left, the session is healthy, and holds what it held around the block. -/
lemma block {flow : Flow} {description : String} (recorded : Nat.lt why s.graph.size)
    (done : runStatements (.within steps) why body (s.inBlock description) = .done flow s') :
    s'.leave.Healthy ∧ s.SameStacks s'.leave ∧
      s.Later (places (fun _ => True) s.visible) s'.leave ∧ s.census.Le s'.leave.census := by
  have current : s.census.scope s.currentScope := h.inOrder.currentScope.made
  have good : thriving.Good s := ⟨h.inOrder, h.equipped⟩
  have tidy : ∀ stmt ∈ body, stmt.Tidy thriving.names := Program.tidy_all (fun _ => trivial) body
  have ends : (Action.newScope s.currentScope description >>= fun scope =>
      Action.inScope scope (runStatements (.within steps) why body) : Eval Flow) s =
        .done flow s'.leave := by
    have makes : (Action.newScope s.currentScope description : Eval ScopeId) s =
        .done s.scopes.size (s.withScope { parent := some s.currentScope, description }) := rfl
    rw [Action.bind_done makes]
    exact Action.inScope_done done
  obtain ⟨healthy, balanced, later, -, d, le, le', -⟩ := h.gives
    (.bind_known (.newScope description current) fun _ _ le hs =>
      .inScope hs (runStatements_sim (tracked_insides steps) (le.reason recorded) fun _ _ => trivial))
    (.newScope (.inBlock good description flowFitting_lasting
      (Regime.runStatements_leads (within_regular steps) (good.inBlock description) tidy))) ends
  exact ⟨healthy, balanced, later, le.trans le'⟩

/-! ## Loops -/

/-- When the variable of a loop is declared, the session stays healthy. -/
lemma beginLoop (free : s.scopes.binds s.currentScope name = false) :
    (s.beginLoop s.currentScope name).Healthy := by
  have good : thriving.Good s := ⟨h.inOrder, h.equipped⟩
  have current : s.census.scope s.currentScope := h.inOrder.currentScope.made
  have tells : (Action.text "Initialized by ForEach loop" : Eval ReasonId) s =
      .done s.graph.size { s with
        graph := s.graph.push (.text "Initialized by ForEach loop") [] none } := rfl
  have done : (Action.text "Initialized by ForEach loop" >>= fun initialized =>
      Action.declare s.currentScope name (.none initialized) : Eval Unit) s =
      .done () (s.beginLoop s.currentScope name) := by
    rw [Action.bind_done tells, beginLoop_declares free]
  have leads : thriving.Leads s.visible Failure.Calm (fun _ now => now.Healthy → True) s
      ((Action.text "Initialized by ForEach loop" >>= fun initialized =>
        Action.declare s.currentScope name (.none initialized) : Eval Unit) s) := by
    refine .bind good (.text good _) fun initialized s1 good1 later _ => ?_
    rw [← later.currentScope, ← later.visible good.orderly good1.orderly]
    exact (Regime.declareHere_leads good1 trivial (.none initialized) trivial).weaken
      fun _ _ _ _ => trivial
  exact (h.gives (Q := Same)
    (.bind_known (.text _) fun _ initialized le own =>
      .declare name (.inl (le.scope current)) (.none own.reason)) leads done).1

end

/-- A loop visits all items, and keeps up an invariant over those that are left, if each pass does:
it begins when the variable of the loop has an item as its value, in a block of its own. -/
lemma forItems {I : List Justified → Session → Prop} {loopScope : ScopeId}
    {collectionWhy : ReasonId} {items : List Justified}
    (passes : ∀ {item rest s s1 pass description}, s.Healthy → s.currentScope = loopScope →
      I (item :: rest) s → s1.Healthy →
      s.Alters (fun j other => j = loopScope ∧ other = name) (fun _ => False) s1 → s.Quiet s1 →
      s1.scopes.local? loopScope name = some ⟨item.value, pass⟩ → Nat.lt pass s1.graph.size →
      ∃ s', runStatements (.within steps) pass body (s1.inBlock description) = .done .normal s' ∧
        I rest s'.leave)
    (h : s.Healthy) (current : s.currentScope = loopScope) (below : loopScope ≠ globalScope)
    (bound : s.scopes.binds loopScope name = true) (caller : Nat.lt why s.graph.size)
    (collected : Nat.lt collectionWhy s.graph.size) (lie : Justified.AllIn s.census items)
    (fit : Justified.AllFit s items) (begins : I items s) :
    ∃ s', Because.forItems (.within steps) loopScope name loc body collectionWhy why items s =
      .done .normal s' ∧ I [] s' := by
  induction items generalizing s with
  | nil => exact ⟨s, rfl, begins⟩
  | cons item rest ih =>
    obtain ⟨lies, others⟩ := List.forall_mem_cons.1 lie
    obtain ⟨fits, remaining⟩ := List.forall_mem_cons.1 fit
    obtain rfl := current
    have known : s.graph.Knows [why, collectionWhy, item.why] := List.forall_mem_cons.2
      ⟨caller, List.forall_mem_cons.2 ⟨collected, List.forall_mem_singleton.2 lies.why⟩⟩
    obtain ⟨t, s1, told, -, -, assigns, healthy, alters, quiet, found, fresh, later, le⟩ :=
      h.writes bound known lies.value fits s!"loop iterator {name}" (s.render item.value) loc
        fun same => absurd same below
    have current := quiet.toSameStacks.currentScope
    let description := s!"iteration where {name} = {s.render item.value}"
    obtain ⟨s2, runs, continues⟩ :=
      @passes item rest s s1 _ description h rfl begins healthy alters quiet found fresh
    obtain ⟨healthy2, balanced, later2, le2⟩ := healthy.block fresh runs
    have current2 := balanced.currentScope.trans current
    have all := le.trans le2
    have caller2 : Nat.lt why s2.leave.graph.size := all.reason caller
    have collected2 : Nat.lt collectionWhy s2.leave.graph.size := all.reason collected
    obtain ⟨s', ends, done⟩ := ih healthy2 current2
      (later2.grows.binds _ _ (later.grows.binds _ _ bound)) caller2 collected2
      (Justified.AllIn.mono all others)
      (Justified.AllFit.grows (Justified.AllFit.grows remaining later.grows) later2.grows) continues
    refine ⟨s', ?_, done⟩
    have renders : Action.render (ε := Failure) item.value s = .done (s.render item.value) s := rfl
    have makes : (Action.newScope s.currentScope description : Eval ScopeId) s1 =
        .done s1.scopes.size (s1.withScope { parent := some s1.currentScope, description }) := by
      rw [current]
      rfl
    rw [Because.forItems, Action.bind_done renders, Action.bind_done told, Action.bind_done assigns,
      Action.bind_done makes, Action.bind_done (Action.inScope_done runs)]
    exact ends

/-- A loop over a collection visits the items that the collection has when it begins, and keeps up
an invariant. -/
lemma forEach {I : List Justified → Session → Prop} {values : Expr} (h : s.Healthy)
    (recorded : Nat.lt why s.graph.size)
    (evaluates : (s.inBlock s!"for loop of {name}").Gives P
      (Because.eval steps values why (s.inBlock s!"for loop of {name}")))
    (begins : ∀ {i now}, (s.inBlock s!"for loop of {name}").Adds now →
      (s.inBlock s!"for loop of {name}").Quiet now → P (.object i) now →
      (now.beginLoop s.scopes.size name).Healthy →
      ∃ handle items, now.handle? (.object i) = some handle ∧ handle.items? = some items ∧
        I items (now.beginLoop s.scopes.size name))
    (passes : ∀ {item rest t s1 pass description}, t.Healthy → t.currentScope = s.scopes.size →
      I (item :: rest) t → s1.Healthy →
      t.Alters (fun j other => j = s.scopes.size ∧ other = name) (fun _ => False) s1 → t.Quiet s1 →
      s1.scopes.local? s.scopes.size name = some ⟨item.value, pass⟩ → Nat.lt pass s1.graph.size →
      ∃ s', runStatements (.within steps) pass body (s1.inBlock description) = .done .normal s' ∧
        I rest s'.leave)
    (loc : Location) :
    ∃ last, Because.exec (steps + 1) (.forEach loc name values body) why s =
        .done .normal last.leave ∧ last.leave.Healthy ∧ s.SameStacks last.leave ∧ I [] last := by
  obtain ⟨i, w, now, given⟩ := evaluates
  have inside := h.inBlock s!"for loop of {name}"
  obtain ⟨healthy, later, le, lies⟩ := inside.eval recorded given.done
  obtain ⟨made, free⟩ := h.loop_free later name
  have current : now.currentScope = s.scopes.size := given.quiet.toSameStacks.currentScope
  have begun : (now.beginLoop s.scopes.size name).Healthy := by
    rw [← current] at free ⊢
    exact healthy.beginLoop free
  obtain ⟨handle, items, state, visits, starts⟩ :=
    begins given.adds given.quiet given.holds begun
  have found : (now.beginLoop s.scopes.size name).handle? (.object i) = some handle := by
    have tags := Scopes.tag_bind now.scopes s.scopes.size name (.none now.graph.size) i
    rw [Session.handle?, Session.tag?, Value.scope?, Option.bind_some, Session.beginLoop, tags]
    exact state
  have grows : now.graph.size ≤ (now.beginLoop s.scopes.size name).graph.size :=
    Nat.le.intro (Graph.size_push ..).symm
  have evaluated : (Inner.within steps).eval values why (s.inBlock s!"for loop of {name}") =
      .done ⟨.object i, w⟩ now := given.done
  obtain ⟨last, ends, finished⟩ := Healthy.forItems passes begun current
    (Nat.ne_of_gt h.inOrder.global.made) (beginLoop_binds made name)
    (Nat.lt_of_lt_of_le (le.reason recorded) grows) (Nat.lt_of_lt_of_le given.recorded grows)
    ((begun.sound.handle_in found).items visits) ((begun.inOrder.handle found).items visits) starts
  have runs : Because.exec (steps + 1) (.forEach loc name values body) why s =
      .done .normal last.leave := by
    rw [exec_forEach, forCollection_runs evaluated state visits free, ends]
    rfl
  obtain ⟨left, balanced⟩ := h.exec recorded runs
  exact ⟨last, runs, left, balanced, finished⟩

/-! ## Programs -/

/-- A program goes on with the next statement once the first one has been executed, because it is in
the program. -/
lemma next {stmt : Stmt} {rest : Program} {R : Session → Prop} (h : s.Healthy)
    (runs : ∀ now, now.Healthy → s.Adduces (.text s!"{stmt.text} is in my program") [] now →
      ∃ s', Because.exec steps stmt s.graph.size now = .done .normal s' ∧ R s') :
    ∃ s', R s' ∧ Because.runProgram (.within steps) (stmt :: rest) s =
      Because.runProgram (.within steps) rest s' := by
  let now : Session :=
    { s with graph := s.graph.push (.text s!"{stmt.text} is in my program") [] none }
  have told : (Action.text s!"{stmt.text} is in my program" : Eval ReasonId) s =
      .done s.graph.size now := rfl
  obtain ⟨s', done, holds⟩ := runs now (h.text _) (s.records_text _)
  refine ⟨s', holds, ?_⟩
  have executed : (Inner.within steps).exec stmt s.graph.size now = .done .normal s' := done
  rw [Because.runProgram, Action.bind_done told, Action.bind_done executed]

end Healthy

end Session

end Because
