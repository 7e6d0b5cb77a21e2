import Because.Program.Build
import Because.Proofs.Filling
import Because.Proofs.Keys
import Because.Proofs.Lists
import Mathlib.Data.Int.Range

/-!
# Loops run over snapshots

A loop over a list or a dictionary makes one pass for each item or key that this holds when the loop
begins, in their order. What the body does to the collection, or to the variable of the loop, makes
no difference; only a return or a failure ends the loop earlier. A loop over a range of numbers goes
through just these numbers: numbers stay what they are, whatever happens between the passes.
-/

namespace Because

/-! ## Leaving scopes -/

/-- The scope that was entered last is left. -/
def Session.leave (s : Session) : Session := { s with entered := s.entered.tail }

/-- The scope that was entered last is left, however the action has ended. -/
def Outcome.leave {ε α : Type} : Outcome ε α → Outcome ε α
  | .done x s => .done x s.leave
  | .failed error s => .failed error s.leave
  | .exhausted => .exhausted

/-- An action in a scope is the action after the scope has been entered, which is then left. -/
lemma Action.inScope_eq {ε α : Type} (scope : ScopeId) (action : Action ε α) (s : Session) :
    Action.inScope scope action s = (action { s with entered := scope :: s.entered }).leave := by
  simp only [Action.inScope]
  cases action { s with entered := scope :: s.entered } <;> rfl

namespace Session

variable {α : Type} {s s' now later : Session} {steps : Nat} {loopScope : ScopeId} {name : String}
  {body : List Stmt} {why collectionWhy : ReasonId} {loc : Location} {items : List Justified}
  {shows : α → Value → Session → Prop} {xs : List α}

/-! ## Passes -/

/-- The body of a loop is about to run for an item. The variable of the loop has this as its value,
and means it in a new scope, which is below that of the loop and binds nothing yet; besides, nothing
has changed but reasons. -/
structure Pass (s : Session) (loopScope : ScopeId) (name : String) (item : Value)
    (now : Session) : Prop where
  scopes : ∃ why description, now.scopes =
    (s.scopes.bind loopScope name ⟨item, why⟩).push { parent := some loopScope, description }
  same : now = { s with
    graph := now.graph, scopes := now.scopes, entered := s.scopes.size :: s.entered }
  means : now.meaning? name = some item

/-- How a loop ends that has a pass for each of these, one after the other, unless its body returns,
fails or runs out of steps in one of them: when a pass begins, the variable means an item that shows
what the pass is for. -/
inductive Passes (inner : Inner) (loopScope : ScopeId) (name : String) (body : List Stmt)
    (shows : α → Value → Session → Prop) : List α → Session → Outcome Failure Flow → Prop where
  | over (s : Session) : Passes inner loopScope name body shows [] s (.done .normal s)
  | next {x : α} {rest : List α} {s now s' : Session} {item : Value} {why : ReasonId}
      {o : Outcome Failure Flow} : s.Pass loopScope name item now → shows x item now →
    runStatements inner why body now = .done .normal s' →
    Passes inner loopScope name body shows rest s'.leave o →
    Passes inner loopScope name body shows (x :: rest) s o
  | returns {x : α} {rest : List α} {s now s' : Session} {item : Value} {why : ReasonId}
      {result : Justified} : s.Pass loopScope name item now → shows x item now →
    runStatements inner why body now = .done (.returned result) s' →
    Passes inner loopScope name body shows (x :: rest) s (.done (.returned result) s'.leave)
  | fails {x : α} {rest : List α} {s now s' : Session} {item : Value} {why : ReasonId}
      {failure : Failure} : s.Pass loopScope name item now → shows x item now →
    runStatements inner why body now = .failed failure s' →
    Passes inner loopScope name body shows (x :: rest) s (.failed failure s'.leave)
  | exhausted {x : α} {rest : List α} {s now : Session} {item : Value} {why : ReasonId} :
    s.Pass loopScope name item now → shows x item now →
    runStatements inner why body now = .exhausted →
    Passes inner loopScope name body shows (x :: rest) s .exhausted

/-- Once its scope has been entered, a pass that begins has begun. -/
lemma Begins.pass {item : Value} (h : s.Begins loopScope name item now)
    (bound : s.scopes.binds loopScope name = true) :
    s.Pass loopScope name item { now with entered := s.scopes.size :: now.entered } := by
  refine ⟨h.scopes, by conv_lhs => rw [h.same], ?_⟩
  obtain ⟨itemWhy, description, scopes⟩ := h.scopes
  have lt := Scopes.lt_of_binds bound
  have scopeAt (i : ScopeId) : now.scopes.scopeAt i =
      if i = s.scopes.size then { parent := some loopScope, description }
      else (s.scopes.bind loopScope name ⟨item, itemWhy⟩).scopeAt i := by
    rw [scopes, Scopes.scopeAt_push, Scopes.bind, Scopes.size_update]
  have parent : now.scopes.parent? s.scopes.size = some loopScope := by
    rw [Scopes.parent?, scopeAt, if_pos rfl]
  have below : now.scopes.local? s.scopes.size name = none := by
    rw [Scopes.local?, scopeAt, if_pos rfl]
    rfl
  have found : now.scopes.local? loopScope name = some ⟨item, itemWhy⟩ := by
    rw [Scopes.local?, scopeAt, if_neg (Nat.ne_of_lt lt), ← Scopes.local?, Scopes.local_bind,
      if_pos ⟨⟨rfl, lt⟩, rfl⟩]
  -- There are at least two scopes, and so the walk gets beyond the first one.
  obtain ⟨n, size⟩ : ∃ n, s.scopes.size = n + 1 :=
    Nat.exists_eq_succ_of_ne_zero (Nat.ne_zero_of_lt lt)
  have gets : now.scopes.tryGet s.scopes.size name = some ⟨item, itemWhy⟩ := by
    rw [tryGet_eq, Scopes.chain, Scopes.chainFrom, parent, List.findSome?_cons, below, size]
    dsimp only
    rw [Scopes.chainFrom, List.findSome?_cons, found]
  exact congrArg (Option.map Justified.value) gets

/-! ## What passes leave alone -/

/-- A number is the key that it is. -/
lemma number?_eq_iff {value : Value} {number : Option Int} :
    s.number? value = some number ↔ s.key value = .number number := by
  constructor
  · intro is
    obtain ⟨⟨_, why⟩, found, rfl⟩ := Option.map_eq_some_iff.1 is
    exact key_of_number found
  · intro same
    have is := s.isKey value
    rw [same] at is
    cases is with
    | number found => rw [number?, found, Option.map_some]

/-- The session is sound and holds whatever the other one holds: keys are the same ones, and names
are still bound. -/
structure Onward (s s' : Session) : Prop where
  sound : s'.Sound
  known : s.census.Le s'.census
  keys : s.KeepsKeys s'
  binds : ∀ i name, s.scopes.binds i name = true → s'.scopes.binds i name = true

/-- What holds more and more goes onward. -/
lemma Onward.trans (h : s.Onward now) (h' : now.Onward s') : s.Onward s' where
  sound := h'.sound
  known := h.known.trans h'.known
  keys := h.keys.trans h'.keys
  binds i name bound := h'.binds i name (h.binds i name bound)

/-- The scope of a pass has been made. -/
lemma Begins.made {item : Value} (h : s.Begins loopScope name item now) :
    Nat.lt s.scopes.size now.scopes.size := by
  obtain ⟨itemWhy, description, scopes⟩ := h.scopes
  rw [scopes, Scopes.size_push, Scopes.bind, Scopes.size_update]
  exact Nat.lt_succ_self _

/-- The beginning of a pass leaves keys what they are. -/
lemma Begins.keepsKeys {item : Value} (h : s.Begins loopScope name item now) :
    s.KeepsKeys now := by
  obtain ⟨itemWhy, description, scopes⟩ := h.scopes
  let bound : Session := { s with scopes := s.scopes.bind loopScope name ⟨item, itemWhy⟩ }
  have binds : s.Calm bound := .updateScope loopScope fun _ => rfl
  have opens : bound.Calm
      { bound with scopes := bound.scopes.push { parent := some loopScope, description } } :=
    .newScope nofun
  exact ((binds.trans opens).trans (.elsewhere scopes)).keepsKeys

namespace Sound

open Comparison

/-- Whatever statements do, keys stay what they are. -/
lemma runStatements_keepsKeys (h : s.Sound) (recorded : Nat.lt why s.graph.size)
    (left : (runStatements (.within steps) why body s).session? = some s') : s.KeepsKeys s' := by
  obtain ⟨log, story, checked⟩ := runStatements_logged (Inner.logged_within steps) why body s
  have chronicle : s.Chronicle steps (runStatements · why body) log := ⟨story, checked⟩
  have during : s.During steps (runStatements · why body) fun current now =>
      now.Sound ∧ current.In now.census := by
    intro alarm
    have tidy : ∀ stmt ∈ body, True := fun _ _ => trivial
    have ends := runStatements_sim (tracked_watched alarm steps) recorded tidy _ _ (tracked_pair h)
    exact tracked_eq ends fun flows => flows.1.trans (Flow.rename_id _)
  have keeps := story.keepsKeys (chronicle.events_sound during)
  rw [left] at keeps
  exact List.rel_of_pairwise_cons keeps (List.mem_append_right _ List.mem_cons_self)

/-- The body of a loop leaves its scope again. -/
lemma runStatements_onward (h : s.Sound) (recorded : Nat.lt why s.graph.size)
    (ends : runStatements (.within steps) why body s = .done .normal s') : s.Onward s'.leave := by
  obtain ⟨sound, -, d, le, le', -⟩ := h.gives
    (runStatements_sim (tracked_insides steps) recorded fun _ _ => trivial) ends
  have keys := h.runStatements_keepsKeys recorded (congrArg Outcome.session? ends)
  have keeps := (runStatements_alike (within_alike steps s.calls) why body).keeps ends
  exact ⟨sound.leaveScope, le.trans le', { keys with }, keeps.binds⟩

variable {info : Justified}

/-- A pass for an item begins. -/
lemma pass_begins (h : s.Sound) (bound : s.scopes.binds loopScope name = true)
    (caller : Nat.lt why s.graph.size) (collected : Nat.lt collectionWhy s.graph.size)
    (known : info.In s.census) (loc : Location) :
    ∃ pass before, let now : Session := { before with entered := s.scopes.size :: before.entered }
      s.Pass loopScope name info.value now ∧ s.Onward now ∧ Nat.lt pass now.graph.size ∧
      ∀ inner body rest,
        forItems inner loopScope name loc body collectionWhy why (info :: rest) s =
          (Action.inScope s.scopes.size (runStatements inner pass body) >>= fun
            | .normal => forItems inner loopScope name loc body collectionWhy why rest
            | .returned result => pure (.returned result)) before := by
  have supported : s.graph.Knows [why, collectionWhy, info.why] :=
    List.forall_mem_cons.2 ⟨caller, List.forall_mem_cons.2
      ⟨collected, List.forall_mem_singleton.2 known.why⟩⟩
  obtain ⟨pass, before, begins, recorded, runs⟩ := forItems_begins supported bound loc
  -- Without a body, a loop over this item alone would be over when the pass has begun.
  have idle : forItems .spent loopScope name loc [] collectionWhy why [info] s =
      .done .normal before := runs .spent [] []
  obtain ⟨sound, -, d, le, le', -⟩ := h.gives
    (forItems_sim (tracked_insides 0) (Scopes.lt_of_binds bound) name loc (List.forall_mem_nil _)
      collected caller (List.forall_mem_singleton.2 known)) idle
  exact ⟨pass, before, begins.pass bound,
    ⟨sound.enterScope begins.made, le.trans le', { begins.keepsKeys with }, begins.keeps.binds⟩,
    recorded, runs⟩

end Sound

/-- What an item shows does not change as long as keys stay what they are. -/
def Lasts (shows : α → Value → Session → Prop) : Prop :=
  ∀ ⦃s s' : Session⦄ ⦃x value⦄, s.KeepsKeys s' → value.In s.census → shows x value s →
    shows x value s'

/-- A loop over items makes one pass for each of them. -/
lemma Sound.forItems_passes (h : s.Sound) (lasts : Lasts shows)
    (bound : s.scopes.binds loopScope name = true) (caller : Nat.lt why s.graph.size)
    (collected : Nat.lt collectionWhy s.graph.size)
    (are : List.Forall₂ (fun info x => info.In s.census ∧ shows x info.value s) items xs) :
    Passes (.within steps) loopScope name body shows xs s
      (forItems (.within steps) loopScope name loc body collectionWhy why items s) := by
  induction items generalizing s xs with
  | nil =>
    cases are
    exact .over s
  | cons info rest ih =>
    obtain ⟨x, xs, ⟨known, shown⟩, others, rfl⟩ := List.forall₂_cons_left_iff.1 are
    obtain ⟨pass, before, isPass, onward, recorded, runs⟩ :=
      h.pass_begins bound caller collected known loc
    let now : Session := { before with entered := s.scopes.size :: before.entered }
    have shownNow : shows x info.value now := lasts onward.keys known.value shown
    rw [runs]
    cases ends : runStatements (.within steps) pass body now with
    | done flow s' =>
      rw [Action.bind_done (Action.inScope_done ends)]
      cases flow with
      | normal =>
        have after := onward.trans (onward.sound.runStatements_onward recorded ends)
        refine .next isPass shownNow ends (ih after.sound (after.binds _ _ bound)
          (after.known.reason caller) (after.known.reason collected) ?_)
        exact others.imp fun _ _ item =>
          ⟨item.1.mono after.known, lasts after.keys item.1.value item.2⟩
      | returned result => exact .returns isPass shownNow ends
    | failed failure s' =>
      rw [Action.bind_failed (Action.inScope_failed ends)]
      exact .fails isPass shownNow ends
    | exhausted =>
      rw [Action.bind_exhausted (Action.inScope_exhausted ends)]
      exact .exhausted isPass shownNow ends

/-! ## Loops over lists and dictionaries -/

/-- A loop runs in a block of its own. -/
lemma exec_forEach {values : Expr} :
    Because.exec (steps + 1) (.forEach loc name values body) why now =
      (forCollection (.within steps) now.scopes.size name values body why
        (now.inBlock s!"for loop of {name}")).leave :=
  Action.inScope_eq ..

namespace Healthy

open Comparison

/-- A session stays healthy when a block is entered. -/
lemma inBlock (h : s.Healthy) (description : String) : (s.inBlock description).Healthy := by
  have good := Regime.Good.inBlock (R := thriving) ⟨h.inOrder, h.equipped⟩ description
  have makes : (Action.newScope s.currentScope description : Eval ScopeId) s =
      .done s.scopes.size (s.withScope { parent := some s.currentScope, description }) := rfl
  have current : s.census.scope s.currentScope := h.inOrder.currentScope.made
  obtain ⟨sound, -⟩ := h.sound.gives (.newScope description current) makes
  have made : Nat.lt s.scopes.size
      (s.withScope { parent := some s.currentScope, description }).scopes.size :=
    Nat.lt_of_lt_of_eq (Nat.lt_succ_self _) (Scopes.size_push ..).symm
  exact ⟨good.orderly, sound.enterScope made, good.holds⟩

/-- Once an expression has been evaluated, its value lies in the session. -/
lemma eval (h : s.Healthy) {expr : Expr} {info : Justified} (recorded : Nat.lt why s.graph.size)
    (done : Because.eval steps expr why s = .done info s') :
    s'.Healthy ∧ s.Later (places (fun _ => True) []) s' ∧ s.census.Le s'.census ∧
      info.In s'.census := by
  obtain ⟨healthy, -, later, -, d, le, le', -, known⟩ := h.gives
    ((tracked_insides steps).eval trivial recorded)
    ((within_regular steps).eval expr why ⟨h.inOrder, h.equipped⟩) done
  exact ⟨healthy, later, le.trans le', known.mono le'⟩

/-- The scope of a loop has no variable yet when the collection has been evaluated. -/
lemma loop_free (h : now.Healthy) {description : String}
    (later : (now.inBlock description).Later (places (fun _ => True) []) s') (name : String) :
    Nat.lt now.scopes.size s'.scopes.size ∧ s'.scopes.binds now.scopes.size name = false := by
  have new : (now.inBlock description).scopes.scopeAt now.scopes.size =
      { parent := some now.currentScope, description } :=
    (scopeAt_withScope ..).trans (if_pos rfl)
  have made : Nat.lt now.scopes.size (now.inBlock description).scopes.size :=
    Nat.lt_of_lt_of_eq (Nat.lt_succ_self _) (Scopes.size_push ..).symm
  have shut (name : String) : ¬ places (fun _ => True) [] now.scopes.size name := by
    rintro (same | ⟨mem, -⟩)
    · exact absurd same (Nat.ne_of_gt h.inOrder.global.made)
    · cases mem
  have spared := later.grows.spared now.scopes.size made (congrArg Scope.tag new) shut
  refine ⟨Nat.lt_of_lt_of_le made later.grows.scopes, ?_⟩
  rw [Scopes.binds, spared, new]
  rfl

end Healthy

/-- The variable of a loop has been declared. -/
lemma Sound.beginLoop (h : s.Sound) (made : Nat.lt loopScope s.scopes.size)
    (free : s.scopes.binds loopScope name = false) : s.Onward (s.beginLoop loopScope name) := by
  have tells : (Action.text "Initialized by ForEach loop" : Eval ReasonId) s =
      .done s.graph.size { s with
        graph := s.graph.push (.text "Initialized by ForEach loop") [] none } := rfl
  have done : (Action.text "Initialized by ForEach loop" >>= fun initialized =>
      Action.declare loopScope name (.none initialized) : Eval Unit) s =
      .done () (s.beginLoop loopScope name) := by
    rw [Action.bind_done tells, beginLoop_declares free]
  obtain ⟨sound, -, d, le, le', -⟩ := h.gives (Q := Comparison.Same)
    (.bind_known (.text _) fun _ initialized le own =>
      .declare name (.inl (le.scope made)) (.none own.reason)) done
  let bound : Session := { s with scopes := s.scopes.bind loopScope name (.none s.graph.size) }
  have binds : s.Calm bound := .updateScope loopScope fun _ => rfl
  have calm : s.Calm (s.beginLoop loopScope name) := binds.trans (.elsewhere rfl)
  have keeps : s.Keeps bound := .bind ..
  exact ⟨sound, le.trans le', calm.keepsKeys, keeps.binds⟩

/-- A loop makes one pass for each item that its collection has once it has been evaluated. -/
lemma Healthy.loops {values : Expr} {collection : Justified} {handle : Handle} (h : now.Healthy)
    (lasts : Lasts shows) (recorded : Nat.lt why now.graph.size)
    (evaluates : Because.eval steps values why (now.inBlock s!"for loop of {name}") =
      .done collection later)
    (state : later.handle? collection.value = some handle) (visits : handle.items? = some items)
    (are : List.Forall₂ (fun info x => shows x info.value later) items xs) :
    ∃ o, Passes (.within steps) now.scopes.size name body shows xs
        (later.beginLoop now.scopes.size name) o ∧
      Because.exec (steps + 1) (.forEach loc name values body) why now = o.leave := by
  obtain ⟨healthy, after, known, collected⟩ := (h.inBlock _).eval recorded evaluates
  obtain ⟨made, free⟩ := h.loop_free after name
  have begun := healthy.sound.beginLoop made free
  have inside := (healthy.sound.handle_in state).items visits
  refine ⟨_, ?_, exec_forEach⟩
  rw [forCollection_runs evaluates state visits free]
  refine begun.sound.forItems_passes lasts (beginLoop_binds made name)
    (begun.known.reason (known.reason recorded)) (begun.known.reason collected.why) ?_
  refine (List.forall₂_and_left ..).2 ⟨Justified.AllIn.mono begun.known inside, ?_⟩
  have both := (List.forall₂_and_left ..).2 ⟨inside, are⟩
  exact both.imp fun _ _ item => lasts begun.keys item.1.value item.2

/-! ## Loops over ranges -/

variable {low high : Expr} {lowInfo highInfo : Justified} {first last : Int}

/-- A number is accepted as the bound of a range. -/
lemma expectBound_done {info : Justified} {number : Int}
    (is : s.number? info.value = some (some number)) : expectBound info s = .done number s := by
  obtain ⟨⟨_, why⟩, found, rfl⟩ := Option.map_eq_some_iff.1 is
  simp only [expectBound, Bind.bind, Action.ask, found]
  rfl

/-- A range is the list of the numbers in it. -/
lemma Works.evalRange_fills (works : later.Works) (lists : later.Names .list)
    (numbers : later.Names .num) (inner : Inner) (expr : Expr)
    (evaluatesLow : inner.eval low why now = .done lowInfo s)
    (evaluatesHigh : inner.eval high why s = .done highInfo later)
    (isLow : later.number? lowInfo.value = some (some first))
    (isHigh : later.number? highInfo.value = some (some last))
    (known : later.graph.Knows [why, lowInfo.why, highInfo.why]) :
    ∃ i spanned s', evalRange inner expr low high why now = .done ⟨.object i, spanned⟩ s' ∧
      later.Filled i Handle.number ((Int.range first last).map some) s' := by
  obtain ⟨i, made, s1, makes, filled1⟩ :=
    works.newList_fills lists Handle.number (known _ List.mem_cons_self) inner
  have known1 := filled1.adds.knows known
  obtain ⟨s2, fills, filled2⟩ := filled1.fillRange works numbers (known1 _ List.mem_cons_self) inner
    (last - first).toNat first
  obtain ⟨s3, told, notes, -⟩ := conj_done
    (List.forall_mem_cons.1 (filled2.adds.knows known)).2 s!"{expr.text} = ({first},{last})"
  have range : (Int.range first last).map some =
      (List.range (last - first).toNat).map fun k : Nat => some (first + k) := List.map_map
  refine ⟨i, s2.graph.size, s3, ?_, ?_⟩
  · rw [evalRange, Action.bind_done evaluatesLow, Action.bind_done evaluatesHigh,
      Action.bind_done (expectBound_done isLow), Action.bind_done (expectBound_done isHigh),
      Action.bind_done makes, Action.bind_done fills, Action.bind_done told]
    rfl
  · rw [range]
    exact filled2.notes notes

/-- The number is what the value stands for. -/
abbrev HasNumber (number : Int) (value : Value) (s : Session) : Prop :=
  s.number? value = some (some number)

/-- A value goes on to have the same number, as long as keys stay what they are. -/
lemma hasNumber_lasts : Lasts HasNumber := by
  intro s s' number value keys known is
  rw [HasNumber, number?_eq_iff, keys.key known]
  exact number?_eq_iff.1 is

/-- A loop over a range makes one pass for each number in it. -/
lemma Healthy.rangeLoops (h : now.Healthy) (recorded : Nat.lt why now.graph.size)
    (evaluatesLow : Because.eval steps low why (now.inBlock s!"for loop of {name}") =
      .done lowInfo s)
    (evaluatesHigh : Because.eval steps high why s = .done highInfo later)
    (isLow : HasNumber first lowInfo.value later) (isHigh : HasNumber last highInfo.value later)
    (lists : later.Names .list) (numbers : later.Names .num) :
    ∃ begun o, later.Adds begun ∧
      Passes (.within (steps + 1)) now.scopes.size name body HasNumber (Int.range first last)
        (begun.beginLoop now.scopes.size name) o ∧
      Because.exec (steps + 2) (.forRange loc name low high body) why now = o.leave := by
  obtain ⟨healthy1, -, known1, given1⟩ := (h.inBlock _).eval recorded evaluatesLow
  have recorded1 := known1.reason recorded
  obtain ⟨healthy2, -, known2, given2⟩ := healthy1.eval recorded1 evaluatesHigh
  have known : later.graph.Knows [why, lowInfo.why, highInfo.why] :=
    List.forall_mem_cons.2 ⟨known2.reason recorded1, List.forall_mem_cons.2
      ⟨known2.reason given1.why, List.forall_mem_singleton.2 given2.why⟩⟩
  obtain ⟨i, spanned, begun, evaluates, filled⟩ := healthy2.works.evalRange_fills
    lists numbers (.within steps) (.range loc low high) evaluatesLow evaluatesHigh isLow isHigh
    known
  obtain ⟨items, state, -, -, are⟩ := filled.lists
  have evaluates : Because.eval (steps + 1) (.range loc low high) why
      (now.inBlock s!"for loop of {name}") = .done ⟨.object i, spanned⟩ begun := evaluates
  obtain ⟨o, passes, runs⟩ := h.loops hasNumber_lasts recorded evaluates state rfl
    (((List.forall₂_map_right_iff ..).1 are).imp fun _ _ is => is.number)
  exact ⟨begun, o, filled.adds, passes, runs⟩

/-! ## Loops in sessions that can come about -/

/-- Loops run over snapshots: a loop over a list or a dictionary makes one pass for each item or key
that this has once it has been evaluated. A loop over a range makes one for each number in it, if
the names of lists and numbers denote the built-in classes when the bounds have been evaluated. -/
structure Snapshots (now : Session) : Prop where
  collections {steps : Nat} {loc : Location} {name : String} {values : Expr} {body : List Stmt}
      {why : ReasonId} {collection : Justified} {handle : Handle} {items : List Justified}
      {later : Session} :
    Nat.lt why now.graph.size →
    Because.eval steps values why (now.inBlock s!"for loop of {name}") = .done collection later →
    later.handle? collection.value = some handle → handle.items? = some items →
    ∃ o, Passes (.within steps) now.scopes.size name body (fun item value _ => value = item)
        (items.map Justified.value) (later.beginLoop now.scopes.size name) o ∧
      Because.exec (steps + 1) (.forEach loc name values body) why now = o.leave
  ranges {steps : Nat} {loc : Location} {name : String} {low high : Expr} {body : List Stmt}
      {why : ReasonId} {lowInfo highInfo : Justified} {first last : Int} {s later : Session} :
    Nat.lt why now.graph.size →
    Because.eval steps low why (now.inBlock s!"for loop of {name}") = .done lowInfo s →
    Because.eval steps high why s = .done highInfo later →
    HasNumber first lowInfo.value later → HasNumber last highInfo.value later →
    later.Names .list → later.Names .num →
    ∃ begun o, later.Adds begun ∧
      Passes (.within (steps + 1)) now.scopes.size name body HasNumber (Int.range first last)
        (begun.beginLoop now.scopes.size name) o ∧
      Because.exec (steps + 2) (.forRange loc name low high body) why now = o.leave

/-- In a healthy session loops run over snapshots. -/
lemma Healthy.snapshots (h : now.Healthy) : now.Snapshots where
  collections {_ _ _ _ _ _ _ _ items _} recorded evaluates state visits := by
    have are : List.Forall₂ (fun info x => info.value = x) items (items.map Justified.value) :=
      (List.forall₂_map_right_iff ..).2 (List.forall₂_same.2 fun _ _ => rfl)
    exact h.loops (fun _ _ _ _ _ _ same => same) recorded evaluates state visits are
  ranges := h.rangeLoops

/-- In sessions that can come about, loops run over snapshots, at every moment of every run. -/
theorem Reachable.loops_snapshot (h : s.Reachable) : s.Snapshots ∧
    ∀ steps program, s.Throughout steps program fun _ now => now.Snapshots := by
  refine ⟨h.healthy.snapshots, fun steps program => ?_⟩
  exact (h.healthy_throughout steps program).mono fun _ _ healthy => healthy.1.snapshots

/-- The body of a loop that makes its list longer. -/
def lengthens : List Stmt :=
  [.effect .builtin
    (.methodCall .builtin (.get .builtin "xs") "append" [.get .builtin "x"])]

/-- The loop makes one pass for the item that the list has, and then it is over; and so is a loop
from 2 to 4 after two passes. -/
theorem Reachable.loops_snapshot_of_shelf : ∃ s, (Session.start {} {}).LeadsTo s ∧ s.Reachable ∧
    (∃ (later : Session) (o : Outcome Failure Flow),
      Passes (.within 5) s.scopes.size "x" lengthens (fun item value _ => value = item)
        [.str "a"] (later.beginLoop s.scopes.size "x") o ∧
      Because.exec 6 (.forEach .builtin "x" (.get .builtin "xs") lengthens) 0 s = o.leave) ∧
    ∃ (begun : Session) (o : Outcome Failure Flow),
      Passes (.within 6) s.scopes.size "x" lengthens HasNumber [2, 3]
        (begun.beginLoop s.scopes.size "x") o ∧
      Because.exec 7 (.forRange .builtin "x" (.num .builtin 2) (.num .builtin 4) lengthens) 0 s =
        o.leave := by
  have runs : ((Because.runProgram (.within 6) shelf (Session.start {} {})).session?.map fun s =>
      decide (0 < s.graph.size ∧
        ((Because.eval 5 (.get .builtin "xs") 0 (s.inBlock ("for loop of " ++ "x"))).result?.any
          fun given => decide (((given.2.handle? given.1.value).bind Handle.items?).map
            (·.map Justified.value) = some [.str "a"])) = true ∧
        ((Because.eval 5 (.num .builtin 2) 0 (s.inBlock ("for loop of " ++ "x"))).result?.any
          fun low => (Because.eval 5 (.num .builtin 4) 0 low.2).result?.any fun high =>
            decide (high.2.number? low.1.value = some (some 2) ∧
              high.2.number? high.1.value = some (some 4) ∧ high.2.Names .list ∧
              high.2.Names .num)) = true)) = some true := by
    decide +kernel
  obtain ⟨s, left, facts⟩ := Option.map_eq_some_iff.1 runs
  obtain ⟨recorded, list, bounds⟩ := of_decide_eq_true facts
  have leads : (Session.start {} {}).LeadsTo s := ⟨6, shelf, left⟩
  have reachable := Reachable.run (.start {} {}) leads
  refine ⟨s, leads, reachable, ?_, ?_⟩
  · obtain ⟨⟨collection, later⟩, evaluated, holds⟩ := (Option.any_eq_true ..).1 list
    obtain ⟨items, visits, values⟩ := Option.map_eq_some_iff.1 (of_decide_eq_true holds)
    obtain ⟨handle, state, visits⟩ := Option.bind_eq_some_iff.1 visits
    obtain ⟨o, passes, ends⟩ := reachable.loops_snapshot.1.collections recorded
      (Outcome.eq_done evaluated) state visits
    rw [values] at passes
    exact ⟨later, o, passes, ends⟩
  · obtain ⟨⟨lowInfo, s1⟩, evaluatedLow, bounds⟩ := (Option.any_eq_true ..).1 bounds
    obtain ⟨⟨highInfo, later⟩, evaluatedHigh, facts⟩ := (Option.any_eq_true ..).1 bounds
    obtain ⟨isLow, isHigh, lists, numbers⟩ := of_decide_eq_true facts
    obtain ⟨begun, o, -, passes, ends⟩ := reachable.loops_snapshot.1.ranges recorded
      (Outcome.eq_done evaluatedLow) (Outcome.eq_done evaluatedHigh) isLow isHigh lists numbers
    exact ⟨begun, o, passes, ends⟩

end Session

end Because
