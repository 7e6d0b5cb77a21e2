import Because.Native.Invoke
import Because.Proofs.Comparison.Run
import Because.Proofs.Outcome
import Because.Proofs.Watch

/-!
# Chronicles

The chronicle of a run lists its moments in order, each with the session at the time. If the run is
watched it goes on as long as its moments pass the checks, and is stopped at the first one that does
not pass. From one event to the next, objects keep their class and their state: a state is changed
only where a statement hands one of a few methods over to it, and where the program itself makes a
list and fills it.
-/

namespace Because

/-! ## Events and what follows them -/

/-- An object gets a new state. -/
def Scopes.restate (scopes : Scopes) (i : ScopeId) (handle : Handle) : Scopes :=
  scopes.update i fun data =>
    { data with tag := data.tag.map fun tag => { tag with handle := some handle } }

/-- What a chronicle tells, each with the session at the time. -/
inductive Event where
  | moment (moment : Moment) (now : Session)
  /-- A list that the program itself makes gets another item, for a new reason. -/
  | filled (list : ScopeId) (items : List Justified) (item : Value) (now : Session)
    (holds : now.handle? (.object list) = some (.list items))

/-- The built-in methods that change the state of their object. They have nothing run. -/
def mutators : List String := ["append", "clear", "removeAt", "put"]

namespace Event

/-- The session in which an event takes place. -/
def now : Event → Session
  | moment _ now | filled _ _ _ now _ => now

/-- The session in which a run goes on after an event: if a method that changes a state is about to
be handed over to it, the session in which this has been done. -/
def after : Event → Session
  | moment (.executing (.invokeNative loc method params) why) now =>
    if method ∈ mutators then
      ((invokeNative .spent method params loc why now).session?).getD now
    else now
  | moment _ now => now
  | filled list items item now _ =>
    { now with scopes := now.scopes.restate list (.list (items ++ [⟨item, now.graph.size⟩])) }

end Event

/-- The state holds nothing that a loop could visit. -/
def Handle.Blank : Handle → Prop
  | .list items => items = []
  | .dict entries => entries = {}
  | _ => True

/-- From one session to the other there are only more scopes, whose tags have not changed; new
objects hold nothing. -/
structure Session.Calm (s s' : Session) : Prop where
  scopes : s.scopes.size ≤ s'.scopes.size
  tags : ∀ i : Nat, i < s.scopes.size → (s'.scopes.scopeAt i).tag = (s.scopes.scopeAt i).tag
  fresh : ∀ (i : Nat) handle, s.scopes.size ≤ i → s'.handle? (.object i) = some handle →
    handle.Blank

/-- What happens from a session onwards: what the events tell, and at last, if the run ends, what
leads to the session that it leaves behind. -/
inductive Story : Session → List Event → Option Session → Prop where
  | ends {s s'} : s.Calm s' → Story s [] (some s')
  | lost {s} : Story s [] none
  | next {s e log o} : s.Calm e.now → Story e.after log o → Story s (e :: log) o

namespace Session

/-- Where there is no scope, there is no object. -/
lemma handle?_beyond {s : Session} {i : Nat} (beyond : s.scopes.size ≤ i) :
    s.handle? (.object i) = none := by
  have empty : (s.scopes.scopeAt i).tag = none := by
    rw [Scopes.scopeAt, Array.getElem?_eq_none beyond, Option.getD_none]
  simp only [handle?, tag?, Value.scope?, Option.bind_some, empty, Option.bind_none]

/-- The state of an object depends on its tag alone. -/
lemma handle?_of_tag {s s' : Session} {i : ScopeId}
    (same : (s'.scopes.scopeAt i).tag = (s.scopes.scopeAt i).tag) :
    s'.handle? (.object i) = s.handle? (.object i) := by
  simp only [handle?, tag?, Value.scope?, Option.bind_some, same]

namespace Calm

variable {s s' s'' : Session}

/-- A change that makes no scopes and leaves all tags alone. -/
lemma ofTags (scopes : s'.scopes.size = s.scopes.size)
    (tags : ∀ i, (s'.scopes.scopeAt i).tag = (s.scopes.scopeAt i).tag) : s.Calm s' where
  scopes := Nat.le_of_eq scopes.symm
  tags i _ := tags i
  fresh i handle beyond found := by
    rw [handle?_beyond (scopes ▸ beyond)] at found
    cases found

/-- A change that does not concern scopes. -/
lemma elsewhere (same : s'.scopes = s.scopes) : s.Calm s' :=
  .ofTags (by rw [same]) fun i => by rw [same]

/-- Doing nothing is calm. -/
lemma refl (s : Session) : s.Calm s := .elsewhere rfl

/-- Two calm changes are calm together: what the first one makes is still blank after the second. -/
lemma trans (h : s.Calm s') (h' : s'.Calm s'') : s.Calm s'' where
  scopes := Nat.le_trans h.scopes h'.scopes
  tags i lt := (h'.tags i (Nat.lt_of_lt_of_le lt h.scopes)).trans (h.tags i lt)
  fresh i handle beyond found := by
    by_cases old : i < s'.scopes.size
    · rw [handle?_of_tag (h'.tags i old)] at found
      exact h.fresh i handle beyond found
    · exact h'.fresh i handle (Nat.le_of_not_lt old) found

/-- A new scope, which is no object that holds anything. -/
lemma newScope {scope : Scope} (blank : ∀ tag handle, scope.tag = some tag →
    tag.handle = some handle → handle.Blank) :
    s.Calm { s with scopes := s.scopes.push scope } where
  scopes := Nat.le.intro (Scopes.size_push ..).symm
  tags i lt := by rw [Scopes.scopeAt_push, if_neg (Nat.ne_of_lt lt)]
  fresh i handle beyond found := by
    simp only [handle?, tag?, Value.scope?, Option.bind_some, Scopes.scopeAt_push] at found
    split at found
    · cases tagged : scope.tag with
      | none =>
        rw [tagged] at found
        cases found
      | some tag =>
        rw [tagged] at found
        exact blank tag handle tagged found
    · have none : s.handle? (.object i) = some handle := found
      rw [handle?_beyond beyond] at none
      cases none

/-- A change of a scope that leaves its tag alone. -/
lemma updateScope (i : ScopeId) {f : Scope → Scope} (same : ∀ data, (f data).tag = data.tag) :
    s.Calm { s with scopes := s.scopes.update i f } := by
  refine .ofTags (Scopes.size_update ..) fun j => ?_
  rw [Scopes.scopeAt_update]
  split
  · exact same _
  · rfl

end Calm

end Session

namespace Story

variable {s s' s'' : Session} {log log' : List Event} {o : Option Session}

/-- A story may begin earlier, if it was calm until then. -/
lemma before (calm : s.Calm s') (h : Story s' log o) : Story s log o := by
  cases h with
  | ends calm' => exact .ends (calm.trans calm')
  | lost => exact .lost
  | next calm' rest => exact .next (calm.trans calm') rest

/-- A story goes on where another one ends. -/
lemma append (h : Story s log (some s')) (h' : Story s' log' o) : Story s (log ++ log') o := by
  generalize same : some s' = first at h
  induction h with
  | ends calm =>
    cases same
    exact .before calm h'
  | lost => cases same
  | next calm _ ih => exact .next calm (ih same)

/-- A story may end later, if it is calm after its last event. -/
lemma behind (h : Story s log (some s')) (calm : s'.Calm s'') : Story s log (some s'') := by
  have longer := h.append (.ends calm)
  rwa [List.append_nil] at longer

end Story

/-! ## Checks -/

/-- What a watched run is checked for, and the alarm that it fails with otherwise. -/
structure Check where
  ok : Moment → Session → Prop
  alarm : Failure

namespace Check

variable {c : Check} {log log' : List Event} {s : Session}

/-- Only moments are checked. -/
def Passes (c : Check) : Event → Prop
  | .moment moment now => c.ok moment now
  | .filled .. => True

/-- A run that is checked is stopped at the first event that does not pass, and leaves the scopes
and reasons behind that there were then. -/
inductive Stops (c : Check) : List Event → Session → Prop where
  | here {e log s} : ¬ c.Passes e → s.scopes = e.now.scopes → s.graph = e.now.graph →
    Stops c (e :: log) s
  | later {e log s} : c.Passes e → Stops c log s → Stops c (e :: log) s

namespace Stops

/-- What happens after a run has been stopped makes no difference. -/
lemma before (h : c.Stops log s) : c.Stops (log ++ log') s := by
  induction h with
  | here fails scopes graph => exact .here fails scopes graph
  | later passes _ ih => exact .later passes ih

/-- Events that pass the check do not stop a run. -/
lemma behind (passes : ∀ e ∈ log, c.Passes e) (h : c.Stops log' s) :
    c.Stops (log ++ log') s := by
  induction log with
  | nil => exact h
  | cons e rest ih =>
    obtain ⟨first, others⟩ := List.forall_mem_cons.1 passes
    exact .later first (ih others)

/-- Only scopes and reasons of the session matter. -/
lemma leave {s' : Session} (h : c.Stops log s) (scopes : s'.scopes = s.scopes)
    (graph : s'.graph = s.graph) : c.Stops log s' := by
  induction h with
  | here fails scopes' graph' => exact .here fails (scopes.trans scopes') (graph.trans graph')
  | later passes _ ih => exact .later passes (ih scopes graph)

/-- A run is stopped only by an event that does not pass. -/
lemma fails (h : c.Stops log s) : ¬ ∀ e ∈ log, c.Passes e := by
  induction h with
  | here fails _ _ => exact fun all => fails (all _ List.mem_cons_self)
  | later _ _ ih => exact fun all => ih fun e mem => all e (List.mem_cons_of_mem _ mem)

end Stops

end Check

/-- Errors that pass on the fault of an alarm. -/
class Alarmed (ε : Type) where
  raises : ε → Fault → Prop

instance : Alarmed Failure := ⟨fun failure fault => failure.fault = fault⟩

instance : Alarmed NativeFault :=
  ⟨fun error fault => ∃ failure : Failure, error = .failure failure ∧ failure.fault = fault⟩

/-- How a run that is checked ends, by the log of the run and how it ends unchecked. -/
inductive Check.Ends {ε α : Type} [Alarmed ε] (c : Check) (log : List Event) (o : Outcome ε α) :
    Outcome ε α → Prop where
  | passed : (∀ e ∈ log, c.Passes e) → Ends c log o o
  | stopped {error s} : c.Stops log s → Alarmed.raises error c.alarm.fault →
    Ends c log o (.failed error s)

/-- Events that pass make no difference to how a checked run ends. -/
lemma Check.Ends.behind {ε α : Type} [Alarmed ε] {c : Check} {log log' : List Event}
    {o o' : Outcome ε α} (passes : ∀ e ∈ log, c.Passes e) (h : c.Ends log' o o') :
    c.Ends (log ++ log') o o' := by
  cases h with
  | passed passes' =>
    exact .passed fun e mem => (List.mem_append.1 mem).elim (passes e) (passes' e)
  | stopped stops raises => exact .stopped (stops.behind passes) raises

/-! ## Actions that have a chronicle -/

/-- Some log tells what has happened since `s`, and the outcome is by it what it is if there are
checks. -/
def Outcome.Logged {ε α : Type} [Alarmed ε] (s : Session) (o : Outcome ε α)
    (checked : Check → Outcome ε α) : Prop :=
  ∃ log, Story s log o.session? ∧ ∀ c : Check, c.Ends log o (checked c)

/-- Wherever the action runs, some log tells what happens. -/
def Action.Logged {ε α : Type} [Alarmed ε] (a : Action ε α) (b : Check → Action ε α) : Prop :=
  ∀ s : Session, (a s).Logged s fun c => b c s

/-- The action has nothing run, and leaves the objects alone. -/
abbrev Action.Bare {ε α : Type} [Alarmed ε] (a : Action ε α) : Prop := a.Logged fun _ => a

namespace Outcome.Logged

variable {ε α β : Type} [Alarmed ε] {s s' : Session} {o : Outcome ε α}

/-- Nothing has been run, and the objects have been left alone. -/
lemma quiet (calm : ∀ now, o.session? = some now → s.Calm now) : o.Logged s fun _ => o := by
  refine ⟨[], ?_, fun c => .passed (List.forall_mem_nil _)⟩
  cases left : o.session? with
  | none => exact .lost
  | some now => exact .ends (calm now left)

/-- The log of two actions in sequence is the log of the first one, and then that of what follows.
-/
lemma bind {a : Action ε α} {b : Check → Action ε α} {f : α → Action ε β}
    {g : Check → α → Action ε β} (first : (a s').Logged s fun c => b c s')
    (next : ∀ x, Action.Logged (f x) fun c => g c x) :
    ((a >>= f) s').Logged s fun c => (b c >>= g c) s' := by
  obtain ⟨log, story, checked⟩ := first
  simp only [Bind.bind]
  cases ends : a s' with
  | done x now =>
    rw [ends] at story checked
    obtain ⟨log', story', checked'⟩ := next x now
    refine ⟨log ++ log', story.append story', fun c => ?_⟩
    have first : c.Ends _ _ (b c s') := checked c
    dsimp only
    generalize b c s' = o at first
    cases first with
    | passed passes => exact (checked' c).behind passes
    | stopped stops raises => exact .stopped stops.before raises
  | failed | exhausted =>
    rw [ends] at story checked
    refine ⟨log, story, fun c => ?_⟩
    have first : c.Ends _ _ (b c s') := checked c
    dsimp only
    generalize b c s' = o at first
    cases first with
    | passed passes => exact .passed passes
    | stopped stops raises => exact .stopped stops raises

end Outcome.Logged

namespace Action.Logged

variable {ε δ α β : Type} [Alarmed ε] [Alarmed δ] {a : Action ε α} {b : Check → Action ε α}
  {f : α → Action ε β} {g : Check → α → Action ε β}

/-! ## Rules for the shape of actions -/

/-- Actions in sequence are logged if the first one is, and what follows each result is. -/
lemma bind (first : Logged a b) (next : ∀ x, Logged (f x) fun c => g c x) :
    Logged (a >>= f) fun c => b c >>= g c :=
  fun s => .bind (first s) next

/-- An action that is calm wherever it runs needs no log. -/
lemma quiet (calm : ∀ s s', (a s).session? = some s' → s.Calm s') : Bare a :=
  fun s => .quiet (calm s)

/-- Giving a result needs no log. -/
lemma pure (x : α) : Bare (Pure.pure x : Action ε α) :=
  .quiet fun s _ left => by
    cases left
    exact .refl s

/-- Failing needs no log. -/
lemma fail (error : ε) : Bare (Action.fail error : Action ε α) :=
  .quiet fun s _ left => by
    cases left
    exact .refl s

/-- Giving up needs no log. -/
lemma giveUp : Bare (Action.giveUp : Action ε α) :=
  .quiet fun _ _ left => by cases left

/-- Reading from the session needs no log. -/
lemma ask (q : Session → α) : Bare (Action.ask q : Action ε α) :=
  .quiet fun s _ left => by
    cases left
    exact .refl s

/-- A result that may be an error needs no log. -/
lemma ofExcept (result : Except ε α) : Bare (Action.ofExcept result) := by
  cases result with
  | ok x => exact .pure x
  | error error => exact .fail error

/-- An action is logged also if its failures are reported differently, as long as alarms are heard.
-/
lemma mapError {r : ε → δ} (h : Logged a b)
    (raises : ∀ e fault, Alarmed.raises e fault → Alarmed.raises (r e) fault) :
    Logged (a.mapError r) fun c => (b c).mapError r := by
  intro s
  obtain ⟨log, story, checked⟩ := h s
  refine ⟨log, ?_, fun c => ?_⟩
  · rwa [session?_mapError]
  · have ends : c.Ends _ _ (b c s) := checked c
    simp only [Action.mapError]
    generalize b c s = o at ends
    cases ends with
    | passed passes => exact .passed passes
    | stopped stops alarm => exact .stopped stops (raises _ _ alarm)

/-- What is logged is logged inside of a scope. -/
lemma inScope (h : Logged a b) (scope : ScopeId) :
    Logged (Action.inScope scope a) fun c => Action.inScope scope (b c) := by
  intro s
  obtain ⟨log, story, checked⟩ := h { s with entered := scope :: s.entered }
  have calm : s.Calm { s with entered := scope :: s.entered } := .elsewhere rfl
  have story := story.before calm
  refine ⟨log, ?_, fun c => ?_⟩
  · simp only [Action.inScope]
    cases ends : a { s with entered := scope :: s.entered } with
    | done x s' | failed e s' =>
      rw [ends] at story
      exact story.behind (.elsewhere rfl)
    | exhausted =>
      rw [ends] at story
      exact story
  · have ends : c.Ends _ _ (b c { s with entered := scope :: s.entered }) := checked c
    simp only [Action.inScope]
    generalize b c { s with entered := scope :: s.entered } = o at ends
    cases ends with
    | passed passes => exact .passed passes
    | stopped stops raises => exact .stopped (stops.leave rfl rfl) raises

/-- What is logged is logged as a call: the trace that a failure gets does not silence an alarm. -/
lemma inCall {a : Eval α} {b : Check → Eval α} (h : Logged a b) (frame : Frame) (why : ReasonId) :
    Logged (Action.inCall frame why a) fun c => Action.inCall frame why (b c) := by
  intro s
  cases room : s.calls.push frame with
  | error fault =>
    simp only [Action.inCall, room]
    exact ⟨[], .ends (.refl s), fun c => .passed (List.forall_mem_nil _)⟩
  | ok calls =>
    obtain ⟨log, story, checked⟩ := h { s with calls }
    have calm : s.Calm { s with calls } := .elsewhere rfl
    have story := story.before calm
    refine ⟨log, ?_, fun c => ?_⟩
    · simp only [Action.inCall, room]
      cases ends : a { s with calls } with
      | done x s' | failed e s' =>
        rw [ends] at story
        exact story.behind (.elsewhere rfl)
      | exhausted =>
        rw [ends] at story
        exact story
    · have ends : c.Ends _ _ (b c { s with calls }) := checked c
      simp only [Action.inCall, room]
      generalize b c { s with calls } = o at ends
      cases ends with
      | passed passes => exact .passed passes
      | stopped stops raises =>
        exact .stopped (stops.leave rfl rfl) ((CallStack.attach_fault ..).trans raises)

/-! ## Reasons, numbers and the console -/

/-- Recording a text needs no log. -/
lemma text (message : String) : Bare (Action.text message : Action ε ReasonId) :=
  .quiet fun s _ left => by
    cases left
    exact .elsewhere rfl

/-- Recording that nothing is known needs no log. -/
lemma unknown : Bare (Action.unknown : Action ε ReasonId) :=
  .quiet fun s _ left => by
    cases left
    exact .elsewhere rfl

/-- Recording a reason needs no log. -/
lemma record (kind : Kind) (supporters : List ReasonId) (location : Option Location) :
    Bare (Action.record kind supporters location) := by
  refine .quiet fun s s' left => ?_
  unfold Action.record Graph.add at left
  split at left
  · rename_i added
    split at added
    · cases added
    · cases added
      cases left
      exact .elsewhere rfl
  · cases left
    exact .refl s

/-- Recording a conjunction needs no log. -/
lemma conj (description : String) (supporters : List ReasonId) :
    Bare (Action.conj description supporters) :=
  record _ _ _

/-- Recording a conjunction with a location needs no log. -/
lemma conjAt (description : String) (supporters : List ReasonId) (location : Location) :
    Bare (Action.conjAt description supporters location) :=
  record _ _ _

/-- Recording an equality needs no log. -/
lemma equal (item value : String) (supporter : ReasonId) :
    Bare (Action.equal item value supporter) :=
  record _ _ _

/-- Recording what a name has come to mean needs no log. -/
lemma full (name value : String) (location : Location) (calling : ReasonId)
    (values : List ReasonId) :
    Bare (Action.full name value location calling values) :=
  record _ _ _

/-- Hiding a reason needs no log. -/
lemma hide (id : ReasonId) : Bare (Action.hide id) := by
  refine .quiet fun s s' left => ?_
  unfold Action.hide Graph.hide at left
  split at left
  · rename_i hidden
    split at hidden
    · cases hidden
      cases left
      exact .elsewhere rfl
    · cases hidden
  · cases left
    exact .refl s

/-- What does not concern scopes. -/
lemma elsewhere {a : Action ε α} (h : ∀ s, ∃ x s', a s = .done x s' ∧ s'.scopes = s.scopes) :
    Bare a := by
  refine .quiet fun s s' left => ?_
  obtain ⟨x, now, ends, scopes⟩ := h s
  rw [ends] at left
  cases left
  exact .elsewhere scopes

/-- Printing needs no log. -/
lemma print (message : String) : Bare (Action.print message : Action ε Unit) :=
  .elsewhere fun _ => ⟨_, _, rfl, rfl⟩

/-- Printing a line needs no log. -/
lemma printLine (message : String) : Bare (Action.printLine message : Action ε Unit) :=
  .elsewhere fun _ => ⟨_, _, rfl, rfl⟩

/-- Reading a line needs no log. -/
lemma readLine : Bare (Action.readLine : Action ε (Option String)) :=
  .elsewhere fun _ => ⟨_, _, rfl, rfl⟩

/-- Defining a function needs no log. -/
lemma define (function : FunctionDef) : Bare (Action.define function : Action ε FunctionId) :=
  .elsewhere fun _ => ⟨_, _, rfl, rfl⟩

/-- Defining a class needs no log. -/
lemma defineClass (classDef : ClassDef) : Bare (Action.defineClass classDef : Action ε ClassId) :=
  .elsewhere fun _ => ⟨_, _, rfl, rfl⟩

/-- Setting a method of a class needs no log. -/
lemma setMethod (id : ClassId) (name : String) (function : FunctionId) :
    Bare (Action.setMethod id name function : Action ε Unit) :=
  .elsewhere fun _ => ⟨_, _, rfl, rfl⟩

/-! ## Scopes -/

/-- Making a scope needs no log: it is no object. -/
lemma newScope (parent : ScopeId) (description : String) :
    Bare (Action.newScope parent description : Action ε ScopeId) :=
  .quiet fun _ _ left => by
    cases left
    exact .newScope nofun

/-- Declaring a name needs no log: scopes keep their tags. -/
lemma declare (scope : ScopeId) (name : String) (info : Justified) :
    Bare (Action.declare scope name info) := by
  refine .quiet fun s s' left => ?_
  unfold Action.declare Scopes.declare at left
  split at left
  · rename_i declared
    split at declared
    · cases declared
    · cases declared
      cases left
      exact .updateScope scope fun _ => rfl
  · cases left
    exact .refl s

/-- Assigning to a name needs no log: scopes keep their tags. -/
lemma assign (scope : ScopeId) (name : String) (info : Justified) :
    Bare (Action.assign scope name info) := by
  refine .quiet fun s s' left => ?_
  unfold Action.assign Scopes.assign at left
  split at left
  · rename_i assigned
    split at assigned
    · cases assigned
      cases left
      exact .updateScope _ fun _ => rfl
    · cases assigned
  · cases left
    exact .refl s

/-- Work that fails for a reason, if it fails. -/
lemma forReason {a : Eval α} {b : Check → Eval α} (h : Logged a b) (why : ReasonId) :
    Logged (a.mapError (·.withReason why)) fun c => (b c).mapError (·.withReason why) :=
  h.mapError fun _ _ raises => raises

/-- A failure that shows something of the session. -/
lemma shown (q : Session → β) (error : β → ε) :
    Bare (Action.ask q >>= fun shown => Action.fail (error shown) : Action ε α) :=
  .bind (.ask q) fun _ => .fail _

/-! ## Built-in methods -/

/-- Work of a program inside that of a method. -/
lemma lift {a : Eval α} {b : Check → Eval α} (h : Logged a b) :
    Logged (liftM a : Native α) fun c => liftM (b c) :=
  h.mapError fun failure _ raises => ⟨failure, rfl, raises⟩

/-- Work of a method inside that of a program. -/
lemma toEval {a : Native α} {b : Check → Native α} (h : Logged a b) (className method : String)
    (why : ReasonId) :
    Logged (Native.toEval className method why a) fun c =>
      Native.toEval className method why (b c) := by
  refine h.mapError ?_
  rintro _ _ ⟨failure, rfl, raises⟩
  exact raises

end Action.Logged

end Because
