import Because.Proofs.Graph.Growth
import Because.Proofs.Orderly.Run

/-!
# What runs keep

What every change keeps holds at every moment of a run, and of all runs that come after it, once it
holds. A change never takes anything back: reasons stay what they are, objects keep their classes,
and a name that a scope binds gets another value only by an assignment, which is recorded as the
reason of the new value.
-/

namespace Because

open Session Comparison

/-! ## Runs -/

namespace Regime

/-- What every change keeps. -/
def keeping (P : Session → Prop) (kept : Kept P) : Regime where
  names _ := True
  holds := P
  ready s _ _ := P s
  lasts _ _ holds later := later.course.kept kept holds
  block description _ holds := (inBlock_course _ description).kept kept holds
  receives _ holds _ _ := holds

variable {P : Session → Prop} (kept : Kept P)

/-- What changes keep is known where `super` is called. -/
lemma keeping_supers : (keeping P kept).Supers := fun _ calls => calls.good.holds

/-- What changes keep holds when bodies start. -/
lemma keeping_bodies : (keeping P kept).Bodies :=
  fun _ _ ready _ _ _ begun => begun.course.kept kept ready

/-- What runs inside a node keeps what every change keeps, and passes the checks for it. -/
lemma keeping_within {ok : Moment → Session → Prop} {alarm : Failure} (steps : Nat)
    (passes : ∀ {moment now}, now.InOrder → moment.Fits now → P now → ok moment now) :
    (Inner.watchedWithin ok alarm steps).Regular (keeping P kept) :=
  .watchedWithin (keeping_supers kept) (keeping_bodies kept)
    (fun sees => passes sees.good.orderly sees.fits sees.good.holds) steps

end Regime

namespace Session

variable {P : Session → Prop} {s s' : Session}

/-- The action keeps the property: it holds at every moment of the action, and afterwards, in
sessions that are in order. -/
structure KeepsThrough {α : Type} (s : Session) (P : Session → Prop) (action : Inner → Eval α) :
    Prop where
  during : ∀ steps, s.During steps action fun moment now =>
    now.InOrder ∧ moment.Fits now ∧ P now
  left : ∀ steps s', (action (.within steps) s).session? = some s' → s'.InOrder ∧ P s'

section

variable {α : Type} {v : List ScopeId} {Q : α → Session → Prop} {action : Inner → Eval α}
  (h : s.InOrder) (kept : Kept P) (holds : P s)

/-- What is kept through an action may be weakened. -/
lemma KeepsThrough.mono {P' : Session → Prop} (through : s.KeepsThrough P action)
    (steady : Steady action) (weaker : ∀ now, P now → P' now) : s.KeepsThrough P' action where
  during steps := steady.during_mono (through.during steps) fun _ now ⟨inOrder, fits, holds⟩ =>
    ⟨inOrder, fits, weaker now holds⟩
  left steps s' left := (through.left steps s' left).imp_right (weaker s')

/-- An action that runs as it should keeps what every change keeps. -/
lemma keepsThrough (steady : Steady action) (leads : ∀ {inner : Inner},
      inner.Regular (Regime.keeping P kept) →
        (Regime.keeping P kept).Leads v Failure.Calm Q s (action inner s)) :
    s.KeepsThrough P action where
  during steps := by
    exact steady.during (leads (Regime.keeping_within kept steps fun inOrder fits holds =>
      ⟨inOrder, fits, holds⟩)).unheard
  left steps s' left := by
    have regular := Inner.Regular.within (Regime.keeping_supers kept)
      (Regime.keeping_bodies kept) steps
    have good := ((leads regular).left left).1
    exact ⟨good.orderly, good.holds⟩

include h kept holds

/-- What changes keep is kept through expressions. -/
lemma InOrder.keeps_expr (expr : Expr) (why : ReasonId) :
    s.KeepsThrough P (evalExpr · expr why) :=
  keepsThrough kept (steady_evalExpr expr why) fun inside =>
    Regime.evalExpr_leads inside ⟨h, holds⟩ expr fun _ => Regime.keeping_supers kept

/-- What changes keep is kept through statements. -/
lemma InOrder.keeps_stmt (stmt : Stmt) (why : ReasonId) :
    s.KeepsThrough P (execStmt · stmt why) :=
  keepsThrough kept (steady_execStmt stmt why) fun inside =>
    Regime.execStmt_leads inside ⟨h, holds⟩ (Stmt.tidy_all (fun _ => trivial) stmt)

/-- What changes keep is kept through calls of functions that are there, with fitting arguments. -/
lemma InOrder.keeps_call {f : Nat} (lt : f < s.functions.size) {args : List Justified}
    (fit : Justified.AllFit s args) (why : ReasonId) :
    s.KeepsThrough P (Because.callFunction · f args why) :=
  keepsThrough kept (steady_callFunction f args why) fun inside =>
    Regime.callFunction_leads inside (Regime.keeping_bodies kept) ⟨h, holds⟩ lt fit holds

/-- What changes keep is kept through programs. -/
lemma InOrder.keeps_program (program : Program) : s.KeepsThrough P (Because.runProgram · program) :=
  keepsThrough kept (steady_runProgram program) fun inside =>
    Regime.runProgram_leads inside ⟨h, holds⟩ (program.tidy_all fun _ => trivial)

end

/-- What a program leaves behind comes out of its session by changes. -/
lemma InOrder.leads (h : s.InOrder) (leads : s.LeadsTo s') : s'.InOrder ∧ s.Course s' := by
  obtain ⟨steps, program, left⟩ := leads
  have kept : Kept s.Course := fun _ _ change course => course.tail change
  exact (h.keeps_program kept .refl program).left steps s' left

/-- So does what several programs leave behind, one after the other. -/
lemma InOrder.leadsOn (h : s.InOrder) (leads : Relation.ReflTransGen LeadsTo s s') :
    s'.InOrder ∧ s.Course s' := by
  induction leads with
  | refl => exact ⟨h, .refl⟩
  | tail _ next ih =>
    obtain ⟨inOrder, course⟩ := ih.1.leads next
    exact ⟨inOrder, ih.2.trans course⟩

/-- What holds in a session that knows nothing holds in all that can come about, if every change
keeps it. -/
lemma Reachable.keeps (h : s.Reachable) (kept : Kept P)
    (blank : ∀ config console, P (blank config console)) : P s := by
  induction h with
  | start config console => exact (start_leads (Regime.keeping P kept) (blank config console)).1.holds
  | run reachable leads ih => exact (reachable.inOrder.leads leads).2.kept kept ih

end Session

/-! ## What a change does to the graph -/

/-- What a change makes of a graph: a new reason rests on older ones. -/
inductive Graph.Recorded (g : Graph) : Graph → Prop where
  | same : Recorded g g
  | leaf {kind : Kind} : kind.IsLeaf → Recorded g (g.push kind [] none)
  | push {kind : Kind} {supporters : List ReasonId} (location : Option Location) :
    g.Knows supporters → kind.Founded supporters → Recorded g (g.push kind supporters location)
  | hide (id : ReasonId) : Recorded g (g.hideAt id)

/-- A change loses no reason that has been recorded. -/
lemma Session.Change.recorded {s s' : Session} (change : s.Change s') :
    s.graph.Recorded s'.graph := by
  cases change with
  | tell leaf => exact .leaf leaf
  | conclude location known founded => exact .push location known founded
  | hide id => exact .hide id
  | assign location known | assignProperty location known => exact .push location known nofun
  | _ => exact .same

/-- A reason stays what it is, unless it is hidden. -/
lemma Graph.Recorded.node {g g' : Graph} (h : g.Recorded g') {id : Nat} {node : Node}
    (found : g.nodes[id]? = some node) :
    ∃ node', g'.nodes[id]? = some node' ∧ node'.kind = node.kind := by
  cases h with
  | same => exact ⟨node, found, rfl⟩
  | leaf | push =>
    have lt : id < g.nodes.size := (Array.getElem?_eq_some_iff.1 found).1
    refine ⟨node, ?_, rfl⟩
    rw [Graph.push, Array.getElem?_push, if_neg (Nat.ne_of_lt lt), found]
  | hide hidden =>
    rw [Graph.hideAt, Array.getElem?_modify, found]
    split
    · exact ⟨_, rfl, rfl⟩
    · exact ⟨node, rfl, rfl⟩

/-- A graph that has lost no reason is no smaller. -/
lemma Graph.Recorded.size {g g' : Graph} (h : g.Recorded g') : g.size ≤ g'.size := by
  cases h with
  | same => exact Nat.le_refl _
  | leaf | push =>
    exact Nat.le_of_lt (Nat.lt_of_lt_of_eq (Nat.lt_succ_self _) (Graph.size_push ..).symm)
  | hide => exact Nat.le_of_eq (Graph.size_hideAt _).symm

/-! ## What a change leaves of objects and classes -/

namespace Session

variable {s s' : Session}

/-- A new scope may be a new object, and other objects stay what they are. -/
lemma kind_push {scope : Scope} (scopes : s'.scopes = s.scopes.push scope) (i : ScopeId) :
    s'.kind? i = if i = s.scopes.size then
      scope.tag.map fun tag => (tag.classId, tag.handle.map Handle.builtin) else s.kind? i := by
  rw [kind?, scopes, Scopes.scopeAt_push]
  split <;> rfl

/-- Binding a variable leaves objects what they are. -/
lemma kind_bind {j : ScopeId} {name : String} {info : Justified}
    (scopes : s'.scopes = s.scopes.bind j name info) (i : ScopeId) : s'.kind? i = s.kind? i := by
  rw [kind?, scopes, Scopes.tag_bind, ← kind?]

/-- The object is new: it is of a class that is there, and binds what has been prepared for it. -/
structure New (s s' : Session) (i : ScopeId) : Prop where
  last : i = s.scopes.size
  prepared : ∀ id builtin, s'.kind? i = some (id, builtin) → Nat.lt id s.classes.size ∧
    ∃ handle : Option Handle, handle.map Handle.builtin = builtin ∧
      s.Prepares id handle (s'.scopes.scopeAt i).bindings

/-- Scopes stay objects of their kind, or no objects, and other objects are new. -/
lemma Change.kind (change : s.Change s') (i : ScopeId) :
    s'.kind? i = s.kind? i ∨ s.New s' i := by
  cases change with
  | aside | tell | conclude | hide | makeFunction => exact .inl rfl
  | declare | assign | assignProperty | makeMethod => exact .inl (kind_bind rfl i)
  | makeScope untagged | makeClass untagged =>
    refine .inl ((kind_push rfl i).trans ?_)
    split
    · rename_i last
      rw [untagged, last, kind?, Scopes.scopeAt, Scopes.size, Array.getElem?_eq_none (Nat.le_refl _)]
      rfl
    · rfl
  | @makeObject scope tag tagged lt prepares =>
    have same := kind_push
      (rfl : ({ s with scopes := s.scopes.push scope } : Session).scopes = s.scopes.push scope) i
    split at same
    · rename_i last
      refine .inr ⟨last, fun id builtin known => ?_⟩
      rw [same, tagged] at known
      cases known
      refine ⟨lt, tag.handle, rfl, ?_⟩
      rw [Scopes.scopeAt_push, if_pos last]
      exact prepares
    · exact .inl same
  | @setHandle j tag handle tagged state =>
    refine .inl ?_
    simp only [kind?, Scopes.scopeAt_update]
    split
    · rename_i here
      rw [← here.1, tagged]
      exact congrArg (fun builtin => some (tag.classId, builtin)) state.symm
    · rfl

/-- A change takes no scope away. -/
lemma Change.scopes_size (change : s.Change s') : s.scopes.size ≤ s'.scopes.size := by
  cases change with
  | makeScope | makeObject | makeClass => exact Nat.le.intro (Scopes.size_push ..).symm
  | declare | assign | assignProperty | makeMethod | setHandle =>
    exact Nat.le_of_eq (Scopes.size_update ..).symm
  | _ => exact Nat.le_refl _

/-- A change leaves the objects of old scopes what they are. -/
lemma Change.kind_old (change : s.Change s') {i : Nat} (lt : i < s.scopes.size) :
    s'.kind? i = s.kind? i :=
  (change.kind i).resolve_right fun new => Nat.ne_of_lt lt new.last

/-- What a change makes of a class: it keeps all but the methods, or it is new and has only older
classes above it. -/
lemma Change.class_cases (change : s.Change s') (id : ClassId) :
    s'.classAt id = { s.classAt id with methods := (s'.classAt id).methods } ∨
      id = s.classes.size ∧ (∀ p : Nat, (s'.classAt id).parent = some p → Nat.lt p id) ∧
        ∀ base : Nat, (s'.classAt id).nativeBase = some base → Nat.le base id := by
  cases change with
  | @makeClass scope classDef _ parent native =>
    have same := classAt_withClass s scope classDef id
    rw [withClass] at same
    rw [same]
    split
    · rename_i last
      exact .inr ⟨last, last ▸ parent, last ▸ native⟩
    · exact .inl rfl
  | @makeMethod id' name f why =>
    have same := classAt_withMethod s id' name f why id
    rw [withMethod] at same
    rw [same]
    split
    · exact .inl rfl
    · exact .inl rfl
  | _ => exact .inl rfl

/-- A change takes no class away. -/
lemma Change.classes_size (change : s.Change s') : s.classes.size ≤ s'.classes.size := by
  cases change with
  | makeClass => exact Nat.le.intro (Array.size_push ..).symm
  | makeMethod => exact Nat.le_of_eq Array.size_modify.symm
  | _ => exact Nat.le_refl _

/-- A class keeps all but its methods. -/
lemma Change.classAt (change : s.Change s') {id : Nat} (lt : id < s.classes.size) :
    s'.classAt id = { s.classAt id with methods := (s'.classAt id).methods } :=
  (change.class_cases id).resolve_right fun new => Nat.ne_of_lt lt new.1

end Session

/-! ## What a change does to a binding -/

namespace Session

variable {s s' : Session}

/-- What the record of an assignment shows: the name of a global variable, and a property with the
object that it belongs to. -/
structure Shows (s : Session) (i : ScopeId) (name shown : String) : Prop where
  global : (s.scopes.scopeAt i).tag = none → i = globalScope → shown = name
  property : (s.scopes.scopeAt i).tag.isSome → ∃ owner, shown = propertyText owner name

/-- What a change makes of the value that a scope itself binds to a name: nothing, or a first value,
or a value that has just been recorded. -/
inductive Rebound (s s' : Session) (i : ScopeId) (name : String) : Prop where
  | same : s'.scopes.local? i name = s.scopes.local? i name → Rebound s s' i name
  | new : s.scopes.local? i name = none → Rebound s s' i name
  | assigned (shown : String) {value : Value} {text : String} {calling : ReasonId}
      {values : List ReasonId} {location : Option Location} :
    s'.scopes.local? i name = some ⟨value, s.graph.size⟩ →
    s'.graph = s.graph.pushFull shown text calling values location →
    s.Shows i name shown → Rebound s s' i name

/-- A new scope binds names for the first time. -/
lemma rebound_push {scope : Scope} (scopes : s'.scopes = s.scopes.push scope) (i : ScopeId)
    (name : String) : s.Rebound s' i name := by
  by_cases last : i = s.scopes.size
  · refine .new ?_
    rw [last, Scopes.local?, Scopes.scopeAt, Scopes.size, Array.getElem?_eq_none (Nat.le_refl _)]
    rfl
  · refine .same ?_
    rw [scopes, Scopes.local?, Scopes.scopeAt_push, if_neg last]
    rfl

/-- A name that is not bound yet may be bound. -/
lemma rebound_declare {j : ScopeId} {other : String} {info : Justified}
    (scopes : s'.scopes = s.scopes.bind j other info) (free : s.scopes.binds j other = false)
    (i : ScopeId) (name : String) : s.Rebound s' i name := by
  by_cases here : (j = i ∧ j < s.scopes.size) ∧ name = other
  · obtain ⟨⟨rfl, -⟩, rfl⟩ := here
    exact .new (Option.not_isSome_iff_eq_none.1 fun bound => by cases free.symm.trans bound)
  · refine .same ?_
    rw [scopes, Scopes.local_bind, if_neg here]

/-- An assignment binds one name again, for the record of the assignment. -/
lemma rebound_assign {j : ScopeId} {other shown text : String} {value : Value} {calling : ReasonId}
    {values : List ReasonId} {location : Option Location}
    (scopes : s'.scopes = s.scopes.bind j other ⟨value, s.graph.size⟩)
    (graph : s'.graph = s.graph.pushFull shown text calling values location)
    (shows : s.Shows j other shown) (i : ScopeId) (name : String) : s.Rebound s' i name := by
  by_cases here : (j = i ∧ j < s.scopes.size) ∧ name = other
  · have bound : s'.scopes.local? i name = some ⟨value, s.graph.size⟩ := by
      rw [scopes, Scopes.local_bind, if_pos here]
    obtain ⟨⟨rfl, -⟩, rfl⟩ := here
    exact .assigned shown bound graph shows
  · refine .same ?_
    rw [scopes, Scopes.local_bind, if_neg here]

/-- A change leaves a binding as it is or binds it again for the record of an assignment. -/
lemma Change.rebound (change : s.Change s') (i : ScopeId) (name : String) :
    s.Rebound s' i name := by
  cases change with
  | aside | tell | conclude | hide | makeFunction => exact .same rfl
  | makeScope | makeObject | makeClass => exact rebound_push rfl i name
  | setHandle =>
    refine .same ?_
    simp only [Scopes.local?, Scopes.scopeAt_update]
    split <;> rfl
  | declare _ free | makeMethod _ _ free => exact rebound_declare rfl free i name
  | assign location _ untagged _ global =>
    refine rebound_assign rfl rfl ⟨fun _ => global, fun tagged => ?_⟩ i name
    rw [untagged] at tagged
    cases tagged
  | assignProperty location _ tagged =>
    refine rebound_assign rfl rfl ⟨fun untagged => ?_, fun _ => ⟨_, rfl⟩⟩ i name
    rw [untagged] at tagged
    cases tagged

/-- A binding whose value has been assigned, when there were at least so many reasons: its reason is
the record of the assignment, and shows what it should. -/
def Assigned (s : Session) (since : Nat) (i : ScopeId) (name : String) (shown : String → Prop) :
    Prop :=
  ∃ info node what text calling values, s.scopes.local? i name = some info ∧ since ≤ info.why ∧
    s.graph.nodes[info.why]? = some node ∧ node.kind = .full what text calling values ∧ shown what

/-- A binding stays what it is or is assigned. -/
lemma Change.binding (change : s.Change s') {i : ScopeId} {name : String} {info : Justified}
    (found : s.scopes.local? i name = some info) {since : Nat} (enough : since ≤ s.graph.size)
    {shown : String → Prop} (shows : ∀ what, s.Shows i name what → shown what) :
    s'.scopes.local? i name = some info ∨ s'.Assigned since i name shown := by
  cases change.rebound i name with
  | same same => exact .inl (same.trans found)
  | new unbound => cases unbound.symm.trans found
  | @assigned what value text calling values location bound graph shown' =>
    have recorded : s'.graph.nodes[s.graph.size]? = some ⟨s.graph.size,
        .full what text calling values, calling :: values, true, location⟩ := by
      rw [graph]
      exact Array.getElem?_push_size
    exact .inr ⟨_, _, what, text, calling, values, bound, enough, recorded, rfl, shows what shown'⟩

/-- What has been assigned stays so, or is assigned again. -/
lemma Assigned.change {since : Nat} {i : ScopeId} {name : String} {shown : String → Prop}
    (h : s.Assigned since i name shown) (change : s.Change s') (enough : since ≤ s.graph.size)
    (shows : ∀ what, s.Shows i name what → shown what) : s'.Assigned since i name shown := by
  obtain ⟨info, node, what, text, calling, values, found, recent, recorded, full, shown'⟩ := h
  obtain same | again := change.binding found enough shows
  · obtain ⟨node', recorded', kind⟩ := change.recorded.node recorded
    exact ⟨info, node', what, text, calling, values, same, recent, recorded', kind.trans full,
      shown'⟩
  · exact again

end Session

end Because
