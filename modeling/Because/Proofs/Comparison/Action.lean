import Because.Proofs.Comparison.Session
import Because.Proofs.Graph.Order

/-!
# Comparing actions

A comparison is lawful if each of the few ways in which an action changes a session keeps sessions
corresponding. Under a lawful comparison every action matches itself; and whatever an action asks
the session, corresponding sessions give corresponding answers, without any further law.
-/

namespace Because

namespace Comparison

variable (C : Comparison)

/-- What two corresponding graphs answer: related results, or the same error. -/
abbrev GraphAnswers {α β : Type} (R : α → β → Prop) :
    Except GraphError α → Except GraphError β → Prop :=
  Answers (fun cause => C.fault (.graph cause)) R

/-- Changes of corresponding sessions keep them corresponding. Whatever a law gives a new number,
the number joins the census. -/
class Lawful : Prop where
  plain {fault : Fault} : fault.Plain → C.fault fault
  leaf {c s t kind} : C.Pair c s t → kind.IsLeaf →
    t.graph.size = C.rename s.graph.size ∧ ∃ d, c.Le d ∧ C.Owned d s.graph.size ∧
      C.holds d { s with graph := s.graph.push kind [] none }
        { t with graph := t.graph.push kind [] none }
  record {c s t kind supporters} (location : Option Location) : C.Pair c s t →
    kind.Rests supporters → (∀ i ∈ supporters, c.reason i) →
    C.GraphAnswers (fun x y => y.1 = C.rename x.1 ∧ ∃ d, c.Le d ∧ C.Owned d x.1 ∧
        C.holds d { s with graph := x.2 } { t with graph := y.2 })
      (s.graph.add kind supporters location)
      (t.graph.add (kind.rename C.rename) (supporters.map C.rename) location)
  hide {c s t id} : C.Pair c s t → C.Owned c id →
    C.GraphAnswers (fun g h => C.holds c { s with graph := g } { t with graph := h })
      (s.graph.hide id) (t.graph.hide (C.rename id))
  explain {c s t id} (depth : Option Nat) : C.Pair c s t → C.shows → c.reason id →
    C.GraphAnswers Eq (s.explain id depth) (t.explain (C.rename id) depth)
  node {c s t id} : C.Pair c s t → C.shows → c.reason id →
    C.GraphAnswers (fun n m => n.mark = m.mark) (s.graph.get id) (t.graph.get (C.rename id))
  newScope {c s t parent} (description : String) : C.Pair c s t → c.scope parent →
    ∃ d, c.Le d ∧ d.scope s.scopes.size ∧
      C.holds d { s with scopes := s.scopes.push { parent := some parent, description } }
        { t with scopes := t.scopes.push { parent := some parent, description } }
  declare {c s t scope name info} : C.Pair c s t → c.place scope → info.In c →
    s.scopes.binds scope name = false →
    C.holds c { s with scopes := s.scopes.bind scope name info }
      { t with scopes := t.scopes.bind scope name (info.rename C.rename) }
  assign {c s t scope owner name info} : C.Pair c s t → c.place scope → info.In c →
    s.scopes.tryFind scope name = some owner →
    C.holds c { s with scopes := s.scopes.bind owner name info }
      { t with scopes := t.scopes.bind owner name (info.rename C.rename) }
  tag {c s t scope classId} (number : Nat) : C.Pair c s t → c.scope scope → c.classId classId →
    ∃ d, c.Le d ∧ d.object scope ∧
      C.holds d
        { s with scopes := s.scopes.update scope fun data =>
          { data with tag := some ⟨number, classId, none⟩ } }
        { t with scopes := t.scopes.update scope fun data =>
          { data with tag := some ⟨number, classId, none⟩ } }
  handle {c s t scope handle} : C.Pair c s t → c.object scope → handle.In c →
    C.holds c
      { s with scopes := s.scopes.update scope fun data =>
        { data with tag := data.tag.map fun tag => { tag with handle := some handle } } }
      { t with scopes := t.scopes.update scope fun data =>
        { data with tag := data.tag.map fun tag =>
          { tag with handle := some (handle.rename C.rename) } } }
  define {c s t function} : C.Pair c s t → function.In c →
    ∃ d, c.Le d ∧ d.function s.functions.size ∧
      C.holds d { s with functions := s.functions.push function }
        { t with functions := t.functions.push function }
  defineClass {c s t classDef} : C.Pair c s t → (∀ p ∈ classDef.parent, c.classId p) →
    (∀ {d}, c.Le d → d.classId s.classes.size → classDef.In d) →
    ∃ d, c.Le d ∧ d.classId s.classes.size ∧
      C.holds d { s with classes := s.classes.push classDef }
        { t with classes := t.classes.push classDef }
  setMethod {c s t id name function} : C.Pair c s t → c.classId id → c.function function →
    C.holds c
      { s with classes := s.classes.modify id fun classDef =>
        { classDef with methods := classDef.methods.insert name function } }
      { t with classes := t.classes.modify id fun classDef =>
        { classDef with methods := classDef.methods.insert name function } }
  nextObject {c s t} (number : Nat) : C.Pair c s t →
    C.holds c { s with nextObject := number } { t with nextObject := number }
  console {c s t} (console : Console) : C.Pair c s t →
    C.holds c { s with console } { t with console }
  enter {c s t scope} : C.Pair c s t → c.scope scope →
    C.holds c { s with entered := scope :: s.entered } { t with entered := scope :: t.entered }
  leave {c s t} : C.Pair c s t →
    C.holds c { s with entered := s.entered.tail } { t with entered := t.entered.tail }
  /-- A call that is over leaves the calls in progress as they were when it began. -/
  endCall {c d s t s' t'} : C.Pair c s t → c.Le d → C.Pair d s' t' →
    C.holds d { s' with calls := s.calls } { t' with calls := t.calls }

variable {C} {c d : Census} {s t : Session}

namespace Pair

/-! ## Sessions after a change -/

/-- Sessions still correspond with other graphs, if what else should hold does so. -/
lemma withGraph (h : C.Pair c s t) (le : c.Le d) {g g' : Graph}
    (holds : C.holds d { s with graph := g } { t with graph := g' }) :
    C.Pair d { s with graph := g } { t with graph := g' } where
  known := { h.known.mono le with }
  __ := h
  holds := holds

/-- Sessions still correspond with other scopes that are the same up to the numbers of reasons. -/
lemma withScopes (h : C.Pair c s t) (le : c.Le d) {u v : Scopes} (hu : u.In d)
    (same : v = u.rename C.rename)
    (holds : C.holds d { s with scopes := u } { t with scopes := v }) :
    C.Pair d { s with scopes := u } { t with scopes := v } where
  known := { h.known.mono le with scopes := hu }
  __ := h
  scopes := same
  holds := holds

variable [C.Lawful]

/-- Sessions correspond after they have entered the same scope. -/
lemma enterScope (h : C.Pair c s t) {scope : ScopeId} (known : c.scope scope) :
    C.Pair c { s with entered := scope :: s.entered } { t with entered := scope :: t.entered } where
  __ := h
  known := { h.known with entered := List.forall_mem_cons.2 ⟨known, h.known.entered⟩ }
  entered := congrArg (scope :: ·) h.entered
  holds := Lawful.enter h known

/-- Sessions correspond after they have left a scope. -/
lemma leaveScope (h : C.Pair c s t) :
    C.Pair c { s with entered := s.entered.tail } { t with entered := t.entered.tail } where
  __ := h
  known := { h.known with
    entered := fun scope mem => h.known.entered scope (List.mem_of_mem_tail mem) }
  entered := congrArg List.tail h.entered
  holds := Lawful.leave h

end Pair

/-! ## Corresponding failures -/

/-- A plain fault without a reason corresponds to itself. -/
lemma failures_of [C.Lawful] {fault : Fault} (h : fault.Plain) :
    C.failures.related c (.of fault) (.of fault) :=
  ⟨rfl, nofun, Lawful.plain h⟩

/-- A plain fault corresponds to itself for corresponding reasons. -/
lemma failures_because [C.Lawful] {fault : Fault} {why : ReasonId} (h : fault.Plain)
    (hw : c.reason why) :
    C.failures.related c (.because fault why) (.because fault (C.rename why)) := by
  refine ⟨rfl, ?_, Lawful.plain h⟩
  intro other mem
  cases mem
  exact hw

namespace Sim

variable {ε : Type} {E : ErrorRel ε}

/-- Failing by a plain fault matches itself. -/
lemma because [C.Lawful] {α : Type} {Q : Census → α → α → Prop} {fault : Fault} {why : ReasonId}
    (h : fault.Plain) (hw : c.reason why) :
    C.Sim C.failures c Q (Action.fail (.because fault why))
      (Action.fail (.because fault (C.rename why))) :=
  .fail (failures_because h hw)

/-! ## Questions -/

/-- Both runs are in the same scope. -/
lemma currentScope : C.Sim E c (SameIn Census.scope) Action.currentScope Action.currentScope :=
  .ask fun pair => pair.currentScope

/-- A value is shown in the same way in both runs: no reason is part of it. -/
lemma render (value : Value) : C.Sim E c Same (Action.render value) (Action.render value) :=
  .ask fun pair => pair.render value

/-- Values are shown in the same way in both runs. -/
lemma renderAll (infos : List Justified) :
    C.Sim E c Same (Action.renderAll infos)
      (Action.renderAll (infos.map (Justified.rename C.rename))) :=
  .ask fun pair => pair.renderAll infos

/-- A refusal that quotes a value. -/
lemma refuseShown [C.Lawful] {α : Type} {Q : Census → α → α → Prop} {value : Value}
    {fault : String → Fault} {why : ReasonId} (hw : c.reason why)
    (plain : ∀ shown, (fault shown).Plain) :
    C.Sim C.failures c Q
      (do
        let shown ← Action.render value
        Action.fail (.because (fault shown) why))
      (do
        let shown ← Action.render value
        Action.fail (.because (fault shown) (C.rename why))) := by
  apply Sim.bind_same (.render value)
  intro d shown le
  exact .because (plain shown) (le.reason hw)

/-- A scope is described in the same way in both runs. -/
lemma describeScope (scope : ScopeId) :
    C.Sim E c Same (Action.describeScope scope) (Action.describeScope scope) :=
  .ask fun pair => pair.description scope

end Sim

/-- Corresponding lists of reasons. -/
def Reasons (C : Comparison) (c : Census) (is js : List ReasonId) : Prop :=
  js = is.map C.rename ∧ ∀ i ∈ is, c.reason i

namespace Reasons

/-- No reasons correspond to none. -/
lemma nil : C.Reasons c [] [] := ⟨rfl, nofun⟩

/-- Corresponding reasons may be put in front of corresponding ones. -/
lemma cons {i : ReasonId} {is js : List ReasonId} (h : c.reason i) (hs : C.Reasons c is js) :
    C.Reasons c (i :: is) (C.rename i :: js) := by
  obtain ⟨rfl, hs⟩ := hs
  exact ⟨rfl, List.forall_mem_cons.2 ⟨h, hs⟩⟩

/-- A reason that is known corresponds to its number in the second run. -/
lemma one {i : ReasonId} (h : c.reason i) : C.Reasons c [i] [C.rename i] := cons h nil

/-- The reasons of corresponding values correspond. -/
lemma of {infos : List Justified} (h : Justified.AllIn c infos) :
    C.Reasons c (reasons infos) (reasons (infos.map (Justified.rename C.rename))) :=
  ⟨reasons_rename infos, h.reasons⟩

end Reasons

namespace Sim

variable [C.Lawful] {ε : Type} {E : ErrorRel ε}

/-! ## Reasons -/

/-- Recording a reason that rests on nothing matches itself, and the new reason is the run's own. -/
lemma leaf (kind : Kind) (h : kind.IsLeaf) :
    C.Sim E c C.Own (fun s => .done s.graph.size { s with graph := s.graph.push kind [] none })
      (fun t => .done t.graph.size { t with graph := t.graph.push kind [] none }) := by
  apply Sim.step
  intro s t pair
  obtain ⟨same, d, le, own, holds⟩ := Lawful.leaf pair h
  exact ⟨d, le, pair.withGraph le holds, ⟨rfl, rfl⟩, ⟨rfl, rfl⟩, same, own⟩

/-- Recording a text matches itself. -/
lemma text (message : String) : C.Sim E c C.Own (Action.text message) (Action.text message) :=
  leaf (.text message) trivial

/-- Recording that nothing is known matches itself. -/
lemma unknown : C.Sim E c C.Own Action.unknown Action.unknown :=
  leaf .unknown trivial

/-- Recording a reason matches recording the same one with the reasons of the second run. -/
lemma record (kind : Kind) {is js : List ReasonId} {location : Option Location}
    (rests : kind.Rests is) (h : C.Reasons c is js) :
    C.Sim C.failures c C.Own (Action.record kind is location)
      (Action.record (kind.rename C.rename) js location) := by
  intro s t pair
  obtain ⟨rfl, known⟩ := h
  have answers := Lawful.record location pair rests known
  unfold Action.record
  generalize s.graph.add kind is location = r,
    t.graph.add (kind.rename C.rename) (is.map C.rename) location = r' at answers
  cases answers with
  | ok h =>
    obtain ⟨same, d, le, own, holds⟩ := h
    exact .done le (pair.withGraph le holds) ⟨rfl, rfl⟩ ⟨rfl, rfl⟩ ⟨same, own⟩
  | error h => exact .failed (.refl c) pair (.refl s) (.refl t) ⟨rfl, nofun, h⟩

/-- Recording a conjunction matches itself. -/
lemma conj (description : String) {is js : List ReasonId} (h : C.Reasons c is js) :
    C.Sim C.failures c C.Own (Action.conj description is) (Action.conj description js) :=
  record (.conj description) trivial h

/-- Recording a conjunction with a location matches itself. -/
lemma conjAt (description : String) (location : Location) {is js : List ReasonId}
    (h : C.Reasons c is js) :
    C.Sim C.failures c C.Own (Action.conjAt description is location)
      (Action.conjAt description js location) :=
  record (.conj description) trivial h

/-- Recording an equality matches itself. -/
lemma equal (item value : String) {supporter : ReasonId} (h : c.reason supporter) :
    C.Sim C.failures c C.Own (Action.equal item value supporter)
      (Action.equal item value (C.rename supporter)) :=
  record (.equal item value) trivial (.one h)

/-- Recording what a name has come to mean matches itself. -/
lemma full (name value : String) (location : Location) {calling : ReasonId}
    {is js : List ReasonId} (h : c.reason calling) (hs : C.Reasons c is js) :
    C.Sim C.failures c C.Own (Action.full name value location calling is)
      (Action.full name value location (C.rename calling) js) := by
  obtain ⟨rfl, known⟩ := hs
  exact record (.full name value calling is) rfl (.cons h ⟨rfl, known⟩)

/-- Hiding a reason matches itself, if the reason is the run's own. -/
lemma hide {id : ReasonId} (h : C.Owned c id) :
    C.Sim C.failures c Same (Action.hide id) (Action.hide (C.rename id)) := by
  intro s t pair
  have answers := Lawful.hide pair h
  unfold Action.hide
  generalize s.graph.hide id = r, t.graph.hide (C.rename id) = r' at answers
  cases answers with
  | ok holds =>
    exact .done (.refl c) (pair.withGraph (.refl c) holds) ⟨rfl, rfl⟩ ⟨rfl, rfl⟩ rfl
  | error h => exact .failed (.refl c) pair (.refl s) (.refl t) ⟨rfl, nofun, h⟩

/-! ## Scopes -/

/-- Making a scope matches itself: both runs give it the same number. -/
lemma newScope {parent : ScopeId} (description : String) (h : c.scope parent) :
    C.Sim E c (SameIn Census.scope) (Action.newScope parent description)
      (Action.newScope parent description) := by
  apply Sim.step (x := fun s => s.scopes.size)
    (u := fun s => { s with scopes := s.scopes.push { parent := some parent, description } })
  intro s t pair
  obtain ⟨d, le, made, holds⟩ := Lawful.newScope description pair h
  have fresh : Scope.In d { parent := some parent, description } :=
    ⟨nofun, fun p mem => by cases mem; exact le.scope h, nofun⟩
  have same : t.scopes.push { parent := some parent, description } =
      (s.scopes.push { parent := some parent, description }).rename C.rename := by
    rw [pair.scopes, Scopes.push_rename rfl]
  refine ⟨d, le, pair.withScopes le ((pair.known.scopes.mono le).push fresh) same holds,
    ⟨rfl, rfl⟩, ⟨rfl, rfl⟩, ?_, made⟩
  rw [pair.scopes, Scopes.size_rename]

/-- Declaring a name matches itself: both runs refuse it or neither does. -/
lemma declare {scope : ScopeId} (name : String) {info : Justified} (h : c.place scope)
    (hi : info.In c) :
    C.Sim C.failures c Same (Action.declare scope name info)
      (Action.declare scope name (info.rename C.rename)) := by
  intro s t pair
  simp only [Action.declare, Scopes.declare, pair.binds, pair.description]
  cases e : s.scopes.binds scope name with
  | true => exact .failed (.refl c) pair (.refl s) (.refl t) (failures_of trivial)
  | false =>
    have holds := Lawful.declare pair h hi e
    have same : t.scopes.bind scope name (info.rename C.rename) =
        (s.scopes.bind scope name info).rename C.rename := by
      rw [pair.scopes, Scopes.bind_rename]
    exact .done (.refl c) (pair.withScopes (.refl c) (pair.known.scopes.bind hi) same holds)
      ⟨rfl, rfl⟩ ⟨rfl, rfl⟩ rfl

/-- Assigning to a name matches itself: both runs find the same scope or neither finds one. -/
lemma assign {scope : ScopeId} (name : String) {info : Justified} (h : c.place scope)
    (hi : info.In c) :
    C.Sim C.failures c Same (Action.assign scope name info)
      (Action.assign scope name (info.rename C.rename)) := by
  intro s t pair
  have sought : t.scopes.tryFind scope name = s.scopes.tryFind scope name := by
    rw [pair.scopes, Scopes.tryFind_rename]
  simp only [Action.assign, Scopes.assign, sought, pair.description]
  cases e : s.scopes.tryFind scope name with
  | none => exact .failed (.refl c) pair (.refl s) (.refl t) (failures_of trivial)
  | some owner =>
    have holds := Lawful.assign pair h hi e
    have same : t.scopes.bind owner name (info.rename C.rename) =
        (s.scopes.bind owner name info).rename C.rename := by
      rw [pair.scopes, Scopes.bind_rename]
    exact .done (.refl c) (pair.withScopes (.refl c) (pair.known.scopes.bind hi) same holds)
      ⟨rfl, rfl⟩ ⟨rfl, rfl⟩ rfl

/-- Making a scope an object matches itself. -/
lemma setTag {scope : ScopeId} {classId : ClassId} (number : Nat) (h : c.scope scope)
    (hc : c.classId classId) :
    C.Sim E c (fun d _ _ => d.object scope) (Action.setTag scope ⟨number, classId, none⟩)
      (Action.setTag scope ⟨number, classId, none⟩) := by
  apply Sim.step (x := fun _ => ())
  intro s t pair
  obtain ⟨d, le, made, holds⟩ := Lawful.tag number pair h hc
  have known := (pair.known.scopes.mono le).update (s := scope)
    (f := fun data => { data with tag := some ⟨number, classId, none⟩ })
    fun scope hs => ⟨hs.bindings, hs.parent, fun tag mem => by
      cases mem
      exact ⟨le.classId hc, nofun⟩⟩
  refine ⟨d, le, pair.withScopes le known ?_ holds, ⟨rfl, rfl⟩, ⟨rfl, rfl⟩, made⟩
  rw [pair.scopes]
  exact Scopes.update_rename scope fun _ => rfl

/-- Giving an object another state matches itself, if the states correspond. -/
lemma setHandle {scope : ScopeId} {handle handle' : Handle} (h : c.object scope)
    (hh : C.Handles c handle handle') :
    C.Sim E c Same (Action.setHandle scope handle) (Action.setHandle scope handle') := by
  obtain ⟨rfl, hh⟩ := hh
  apply Sim.step (x := fun _ => ())
  intro s t pair
  have known := pair.known.scopes.update (s := scope)
    (f := fun data => { data with tag := data.tag.map fun tag => { tag with handle := handle } })
    fun scope hs => ⟨hs.bindings, hs.parent, fun tag mem => by
      obtain ⟨old, found, rfl⟩ := Option.map_eq_some_iff.1 mem
      exact ⟨(hs.tag old found).classId, fun held mem => by cases mem; exact hh⟩⟩
  refine ⟨c, .refl c, pair.withScopes (.refl c) known ?_ (Lawful.handle pair h hh), ⟨rfl, rfl⟩,
    ⟨rfl, rfl⟩, rfl⟩
  rw [pair.scopes]
  apply Scopes.update_rename
  intro data
  cases e : data.tag <;> simp [Scope.rename, ObjectTag.rename, e]

/-! ## Definitions -/

/-- Defining a function matches itself, if its body is one that the comparison allows. -/
lemma define {function : FunctionDef} (h : function.In c)
    (hb : ∀ stmt ∈ function.body, C.body stmt) :
    C.Sim E c (SameIn Census.function) (Action.define function) (Action.define function) := by
  apply Sim.step
  intro s t pair
  obtain ⟨d, le, made, holds⟩ := Lawful.define pair h
  have known : ∀ f ∈ s.functions.push function, f.In d := by
    intro f mem
    obtain mem | rfl := Array.mem_push.1 mem
    · exact (pair.known.functions f mem).mono le
    · exact h.mono le
  have bodies : ∀ f ∈ s.functions.push function, ∀ stmt ∈ f.body, C.body stmt := by
    intro f mem
    obtain mem | rfl := Array.mem_push.1 mem
    · exact pair.bodies f mem
    · exact hb
  refine ⟨d, le, ?_, ⟨rfl, rfl⟩, ⟨rfl, rfl⟩, by rw [SameIn, pair.functions]; exact ⟨rfl, made⟩⟩
  exact { pair with
    known := { pair.known.mono le with functions := known }
    bodies := bodies
    functions := congrArg (·.push function) pair.functions
    holds := holds }

/-- A class may be its own built-in base, so that its definition lies in the census only once
the class has its number. -/
lemma defineClass_ends {s t : Session} (pair : C.Pair c s t) {classDef : ClassDef}
    (parent : ∀ p ∈ classDef.parent, c.classId p)
    (h : ∀ {d : Census}, c.Le d → d.classId s.classes.size → classDef.In d) :
    C.Ends E c s t (fun d x y => x = s.classes.size ∧ SameIn Census.classId d x y)
      (Action.defineClass classDef s) (Action.defineClass classDef t) := by
  obtain ⟨d, le, made, holds⟩ := Lawful.defineClass pair parent h
  have known : ∀ other ∈ s.classes.push classDef, other.In d := by
    intro other mem
    -- The new definition may refer to its own number, which only the later census has.
    obtain mem | rfl := Array.mem_push.1 mem
    · exact (pair.known.classes other mem).mono le
    · exact h le made
  have after : C.Pair d { s with classes := s.classes.push classDef }
      { t with classes := t.classes.push classDef } :=
    { pair with
      known := { pair.known.mono le with classes := known }
      classes := congrArg (·.push classDef) pair.classes
      holds := holds }
  exact .done le after ⟨rfl, rfl⟩ ⟨rfl, rfl⟩ ⟨rfl, congrArg Array.size pair.classes, made⟩

/-- Defining a class matches itself. -/
lemma defineClass {classDef : ClassDef} (h : ∀ {d : Census}, c.Le d → classDef.In d) :
    C.Sim E c (SameIn Census.classId) (Action.defineClass classDef)
      (Action.defineClass classDef) :=
  fun _ _ pair => (defineClass_ends pair (h (.refl c)).parent fun le _ => h le).weaken And.right

/-- Setting a method of a class matches itself. -/
lemma setMethod {id : ClassId} {function : FunctionId} (name : String) (h : c.classId id)
    (hf : c.function function) :
    C.Sim E c Same (Action.setMethod id name function) (Action.setMethod id name function) := by
  apply Sim.step (x := fun _ => ())
  intro s t pair
  have known : ∀ other ∈ s.classes.modify id (fun classDef =>
      { classDef with methods := classDef.methods.insert name function }), other.In c := by
    intro other mem
    obtain ⟨i, hi, rfl⟩ := Array.mem_iff_getElem.1 mem
    rw [Array.getElem_modify]
    have old := pair.known.classes _ (Array.getElem_mem (by simpa using hi))
    split
    · -- Only the table of the class has changed, by one entry.
      refine ⟨old.parent, old.implScope, ?_, old.nativeBase⟩
      intro method mem
      obtain rfl | mem := Assoc.mem_insert mem
      · exact hf
      · exact old.methods method mem
    · exact old
  refine ⟨c, .refl c, ?_, ⟨rfl, rfl⟩, ⟨rfl, rfl⟩, rfl⟩
  exact { pair with
    known := { pair.known with classes := known }
    classes := by rw [pair.classes]
    holds := Lawful.setMethod pair h hf }

/-- Numbering an object matches itself. -/
lemma newObjectNumber :
    C.Sim E c Same Action.newObjectNumber Action.newObjectNumber := by
  apply Sim.step
  intro s t pair
  refine ⟨c, .refl c, ?_, ⟨rfl, rfl⟩, ⟨rfl, rfl⟩, pair.nextObject⟩
  exact { pair with
    known := { pair.known with }
    nextObject := congrArg (· + 1) pair.nextObject
    holds := pair.nextObject ▸ Lawful.nextObject _ pair }

/-! ## Console -/

/-- What concerns the console alone matches itself, as both runs have the same one. -/
lemma console {α : Type} (x : Console → α) (u : Console → Console) :
    C.Sim E c Same (fun s => .done (x s.console) { s with console := u s.console })
      (fun t => .done (x t.console) { t with console := u t.console }) := by
  apply Sim.step
  intro s t pair
  refine ⟨c, .refl c, ?_, ⟨rfl, rfl⟩, ⟨rfl, rfl⟩, congrArg x pair.console⟩
  exact { pair with
    known := { pair.known with }
    console := congrArg u pair.console
    holds := pair.console ▸ Lawful.console _ pair }

/-- Printing matches itself. -/
lemma print (message : String) :
    C.Sim E c Same (Action.print message) (Action.print message) :=
  console (fun _ => ()) (·.print message)

/-- Printing a line matches itself. -/
lemma printLine (message : String) :
    C.Sim E c Same (Action.printLine message) (Action.printLine message) :=
  console (fun _ => ()) (·.printLine message)

/-- Reading a line matches itself. -/
lemma readLine : C.Sim E c Same Action.readLine Action.readLine :=
  console Console.next? Console.advance

/-! ## Scopes and calls around an action -/

/-- What matches goes on to match inside of a scope. -/
lemma inScope {α β : Type} {Q : Census → α → β → Prop} {scope : ScopeId} {a : Action ε α}
    {b : Action ε β} (h : c.scope scope) (inside : C.Sim E c Q a b) :
    C.Sim E c Q (Action.inScope scope a) (Action.inScope scope b) := by
  intro s t pair
  have ends := inside _ _ (pair.enterScope h)
  unfold Action.inScope
  generalize a { s with entered := scope :: s.entered } = o,
    b { t with entered := scope :: t.entered } = o' at ends
  cases ends with
  | done le pair' ks kt q =>
    exact .done le pair'.leaveScope ks.leaveScope kt.leaveScope q
  | failed le pair' ks kt e =>
    exact .failed le pair'.leaveScope ks.leaveScope kt.leaveScope e
  | exhausted h => exact .exhausted h
  | escaped ks h => exact .escaped ks.leaveScope h

end Sim

/-- Whether there is room for a call, in both sessions or in neither; the comparison ends where
the first session alone has none. -/
inductive Room (C : Comparison) (c : Census) (frame : Frame) (s t : Session) : Prop where
  | room : s.calls.isFull = false → t.calls.isFull = false →
    C.holds c { s with calls := s.calls.enter frame } { t with calls := t.calls.enter frame } →
    Room C c frame s t
  | full : s.calls.isFull = true → t.calls.isFull = true → t.calls.limit = s.calls.limit →
    C.fault (.recursionLimit (s.calls.limit.getD 0)) → Room C c frame s t
  | escaped : s.calls.isFull = true → C.escape (.recursionLimit (s.calls.limit.getD 0)) →
    Room C c frame s t

/-- A trace is added to corresponding failures alike. -/
lemma attach_related {calls calls' : CallStack} {failure other : Failure}
    (frames : calls'.frames = calls.frames) (h : C.failures.related c failure other) :
    C.failures.related c (calls.attach failure) (calls'.attach other) := by
  obtain ⟨rfl, known, allowed⟩ := h
  simp only [CallStack.attach, frames, Failure.rename]
  split
  · exact ⟨rfl, known, allowed⟩
  · refine ⟨?_, known, allowed⟩
    simp only [Failure.withTrace, Failure.rename, CallStack.trace, frames]

/-- Two runs that both have no room for a call refuse it before it begins. -/
lemma Ends.noRoom {α β : Type} {Q : Census → α → β → Prop} {frame : Frame} {why : ReasonId}
    {a : Eval α} {b : Eval β} (pair : C.Pair c s t) (hs : s.calls.isFull = true)
    (ht : t.calls.isFull = true) (limit : t.calls.limit = s.calls.limit)
    (allowed : C.fault (.recursionLimit (s.calls.limit.getD 0))) (hw : c.reason why) :
    C.Ends C.failures c s t Q (Action.inCall frame why a s)
      (Action.inCall frame (C.rename why) b t) := by
  simp only [Action.inCall, CallStack.push, hs, ht, limit, if_true]
  refine .failed (.refl c) pair (.refl s) (.refl t) ⟨rfl, ?_, allowed⟩
  intro other mem
  cases mem
  exact hw

section

variable {inner : Census → Session → Session → Prop}

/-- Sessions that correspond still do so in a call; what else holds of them may change. -/
lemma Pair.enterCall (h : C.Pair c s t) {frame : Frame} (known : frame.In c)
    (holds : inner c { s with calls := s.calls.enter frame }
      { t with calls := t.calls.enter frame }) :
    ({ C with holds := inner } : Comparison).Pair c { s with calls := s.calls.enter frame }
      { t with calls := t.calls.enter frame } where
  __ := h
  known := { h.known with frames := List.forall_mem_cons.2 ⟨known, h.known.frames⟩ }
  frames := congrArg (frame :: ·) h.frames
  holds := holds

/-- Sessions that correspond in a call do so when it is over. -/
lemma Pair.popCall (h : ({ C with holds := inner } : Comparison).Pair c s t)
    (holds : C.holds c { s with calls := s.calls.pop } { t with calls := t.calls.pop }) :
    C.Pair c { s with calls := s.calls.pop } { t with calls := t.calls.pop } where
  __ := h
  known := { h.known with
    frames := fun frame mem => h.known.frames frame (List.mem_of_mem_tail mem) }
  frames := congrArg List.tail h.frames
  holds := holds

variable (inner) in
/-- An action that runs as a call for which there is room. Inside of the call something else may
hold of the sessions than outside. -/
lemma Ends.inRoom {α β : Type} {Q : Census → α → β → Prop} {frame : Frame} {why : ReasonId}
    {a : Eval α} {b : Eval β} (pair : C.Pair c s t) (hf : frame.In c)
    (hs : s.calls.isFull = false) (ht : t.calls.isFull = false)
    (begins : inner c { s with calls := s.calls.enter frame }
      { t with calls := t.calls.enter frame })
    (returns : ∀ {d s' t'}, c.Le d → ({ C with holds := inner } : Comparison).Pair d s' t' →
      C.holds d { s' with calls := s.calls } { t' with calls := t.calls })
    (inside : ({ C with holds := inner } : Comparison).Sim C.failures c Q a b) :
    C.Ends C.failures c s t Q (Action.inCall frame why a s)
      (Action.inCall frame (C.rename why) b t) := by
  have ends := inside _ _ (pair.enterCall hf begins)
  -- The stacks are in the end what they were when the call had begun.
  have back {d : Census} {s' t' : Session} (le : c.Le d)
      (pair' : ({ C with holds := inner } : Comparison).Pair d s' t')
      (ks : Session.SameStacks { s with calls := s.calls.enter frame } s')
      (kt : Session.SameStacks { t with calls := t.calls.enter frame } t') :
      C.Pair d { s' with calls := s'.calls.pop } { t' with calls := t'.calls.pop } := by
    apply pair'.popCall
    rw [ks.calls, kt.calls]
    exact returns le pair'
  simp only [Action.inCall, CallStack.push, hs, ht, Bool.false_eq_true, if_false]
  generalize a { s with calls := s.calls.enter frame } = o,
    b { t with calls := t.calls.enter frame } = o' at ends
  cases ends with
  | done le pair' ks kt q =>
    exact .done le (back le pair' ks kt) ks.popCall kt.popCall q
  | failed le pair' ks kt e =>
    exact .failed le (back le pair' ks kt) ks.popCall kt.popCall (attach_related pair'.frames e)
  | exhausted h => exact .exhausted h
  | escaped ks h =>
    refine .escaped ks.popCall ?_
    unfold CallStack.attach
    split <;> exact h

end

/-- An action that runs as a call. Its reason is that of the call, if there is no room for it. -/
lemma Ends.inCall [C.Lawful] {α β : Type} {Q : Census → α → β → Prop} {frame : Frame}
    {why : ReasonId} {a : Eval α} {b : Eval β} (pair : C.Pair c s t) (room : C.Room c frame s t)
    (hf : frame.In c) (hw : c.reason why) (inside : C.Sim C.failures c Q a b) :
    C.Ends C.failures c s t Q (Action.inCall frame why a s)
      (Action.inCall frame (C.rename why) b t) := by
  cases room with
  | full hs ht limit allowed => exact .noRoom pair hs ht limit allowed hw
  | escaped hs h =>
    simp only [Action.inCall, CallStack.push, hs, if_true]
    exact .escaped (.refl s) h
  | room hs ht holds =>
    exact .inRoom C.holds pair hf hs ht holds (fun le pair' => Lawful.endCall pair le pair') inside

end Comparison

end Because
