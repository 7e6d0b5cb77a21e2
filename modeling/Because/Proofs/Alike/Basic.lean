import Because.Native.Basic
import Because.Proofs.Graph.History
import Because.Proofs.Orderly.Change

/-!
# Actions that differ in their failures only

Two actions are alike if they do the same wherever the same calls are in progress, except that a
failure of the one may say something else than the same failure of the other. What may differ is
up to a relation of failures. An action that is compared with itself so is known to keep what no
action may lose: the calls in progress, the names that scopes bind, and what reasons rest on.
-/

namespace Because

/-! ## What is never lost -/

/-- Of the reasons that are there, nothing has changed except that some of them may be hidden. -/
def Graph.Keeps (g g' : Graph) : Prop :=
  ∀ (i : Nat) (node : Node), g.nodes[i]? = some node →
    ∃ shown, g'.nodes[i]? = some { node with shown }

namespace Graph.Keeps

variable {g g' g'' : Graph}

/-- A graph keeps what it holds itself. -/
lemma refl (g : Graph) : g.Keeps g := fun _ node found => ⟨node.shown, found⟩

/-- What is kept by each of two changes is kept by both. -/
lemma trans (h : g.Keeps g') (h' : g'.Keeps g'') : g.Keeps g'' := by
  intro i node found
  obtain ⟨shown, found⟩ := h i node found
  obtain ⟨shown, found⟩ := h' i _ found
  exact ⟨shown, found⟩

/-- A new reason comes after all others, and leaves them as they are. -/
lemma push (g : Graph) (kind : Kind) (supporters : List ReasonId) (location : Option Location) :
    g.Keeps (g.push kind supporters location) := by
  intro i node found
  have old : i ≠ g.nodes.size := Nat.ne_of_lt (lt_size found)
  exact ⟨node.shown, by simp only [Graph.push, Array.getElem?_push, old, if_false, found]⟩

/-- A reason that the graph accepts leaves all others as they are. -/
lemma add {kind : Kind} {supporters : List ReasonId} {location : Option Location} {id : ReasonId}
    (added : g.add kind supporters location = .ok (id, g')) : g.Keeps g' := by
  unfold Graph.add at added
  split at added
  · cases added
  · cases added
    exact push g kind supporters _

/-- Hiding a reason changes nothing but whether this reason is shown. -/
lemma hide {id : ReasonId} (hidden : g.hide id = .ok g') : g.Keeps g' := by
  intro i node found
  have runs := nodes_run found (.hide id)
  simp only [Operation.run, hidden] at runs
  exact ⟨_, runs⟩

end Graph.Keeps

namespace Session

/-- The same calls are in progress, and scopes, their names and reasons have only come on top. -/
structure Keeps (s s' : Session) : Prop where
  calls : s'.calls = s.calls
  scopes : s.scopes.size ≤ s'.scopes.size
  binds : ∀ scope name, s.scopes.binds scope name = true → s'.scopes.binds scope name = true
  graph : s.graph.Keeps s'.graph

namespace Keeps

variable {s s' s'' : Session}

/-- A session keeps what it holds itself. -/
lemma refl (s : Session) : s.Keeps s := ⟨rfl, Nat.le_refl _, fun _ _ => id, .refl _⟩

/-- What is kept by each of two changes of a session is kept by both. -/
lemma trans (h : s.Keeps s') (h' : s'.Keeps s'') : s.Keeps s'' :=
  ⟨h'.calls.trans h.calls, Nat.le_trans h.scopes h'.scopes,
    fun scope name bound => h'.binds scope name (h.binds scope name bound), h.graph.trans h'.graph⟩

/-- Nothing is lost if only the graph changes and keeps its reasons. -/
lemma ofGraph {graph : Graph} (grows : s.graph.Keeps graph) : s.Keeps { s with graph } :=
  ⟨rfl, Nat.le_refl _, fun _ _ => id, grows⟩

/-- A new scope takes nothing away from the older ones. -/
lemma newScope (s : Session) (scope : Scope) :
    s.Keeps { s with scopes := s.scopes.push scope } := by
  refine ⟨rfl, ?_, fun i name bound => ?_, .refl _⟩
  · simp only [Scopes.size_push]
    omega
  · have old : i ≠ s.scopes.size := Nat.ne_of_lt (Scopes.lt_of_binds bound)
    simp only [Scopes.binds, Scopes.scopeAt_push, old, if_false] at *
    exact bound

/-- A change of a scope that unbinds nothing. -/
lemma updateScope (s : Session) (i : ScopeId) {f : Scope → Scope}
    (more : ∀ data name, data.bindings.contains name = true →
      (f data).bindings.contains name = true) :
    s.Keeps { s with scopes := s.scopes.update i f } := by
  refine ⟨rfl, ?_, fun j name bound => ?_, .refl _⟩
  · simp only [Scopes.size_update]
    exact Nat.le_refl _
  · simp only [Scopes.binds, Scopes.scopeAt_update] at *
    split
    · exact more _ _ bound
    · exact bound

/-- Binding a name unbinds no other one. -/
lemma bind (s : Session) (i : ScopeId) (name : String) (info : Justified) :
    s.Keeps { s with scopes := s.scopes.bind i name info } := by
  refine updateScope s i fun data other bound => ?_
  rw [Assoc.contains_insert, bound, Bool.or_true]

/-- Work in an entered scope, and leaving it, loses no more than the work does. -/
lemma leaveScope {entered : List ScopeId} (h : Keeps { s with entered } s') :
    s.Keeps { s' with entered := s'.entered.tail } :=
  ⟨h.calls, h.scopes, h.binds, h.graph⟩

/-- When a call is over, the calls before it are in progress again. -/
lemma endCall {frame : Frame} (h : Keeps { s with calls := s.calls.enter frame } s') :
    s.Keeps { s' with calls := s'.calls.pop } := by
  refine ⟨?_, h.scopes, h.binds, h.graph⟩
  simp only [h.calls]
  rfl

end Keeps

end Session

/-! ## Failures -/

/-- The failure has a reason, unless a name was declared twice or the graph refused. -/
def Failure.Reasoned (failure : Failure) : Prop :=
  failure.why = none → (∃ name scope, failure.fault = .duplicateDeclaration name scope) ∨
    ∃ cause, failure.fault = .graph cause

/-- A failure that has just arisen in a step: no call has been left since, and it is not for want of
room for a call. -/
structure Failure.Fresh (failure : Failure) : Prop where
  trace : failure.trace = none
  reasoned : failure.Reasoned
  room : ∀ n, failure.fault ≠ .recursionLimit n

namespace Failure.Fresh

/-- A failure with a reason is fresh unless it is for want of room for a call. -/
lemma because {fault : Fault} {why : ReasonId} (other : ∀ n, fault ≠ .recursionLimit n) :
    (Failure.because fault why).Fresh :=
  ⟨rfl, nofun, other⟩

/-- The second declaration of a name fails without a reason of its own. -/
lemma duplicate (name scope : String) : (Failure.of (.duplicateDeclaration name scope)).Fresh :=
  ⟨rfl, fun _ => .inl ⟨name, scope, rfl⟩, nofun⟩

/-- A refusal of the graph has no reason of its own either. -/
lemma graph (cause : GraphError) : (Failure.of (.graph cause)).Fresh :=
  ⟨rfl, fun _ => .inr ⟨cause, rfl⟩, nofun⟩

end Failure.Fresh

/-- A relation of failures that may arise in any step, and pass through built-in methods. -/
class Telling (tells : Failure → Failure → Prop) : Prop where
  fresh {failure : Failure} : failure.Fresh → tells failure failure
  orReason {failure other : Failure} (why : ReasonId) : tells failure other →
    tells (failure.orReason why) (other.orReason why)

/-- What built-in methods fail with is related as the failures of programs in it are. -/
inductive NativeFault.Tells (tells : Failure → Failure → Prop) :
    NativeFault → NativeFault → Prop where
  | own {fault} : (∀ cause, fault ≠ .failure cause) → Tells tells fault fault
  | failure {cause other} : tells cause other → Tells tells (.failure cause) (.failure other)

/-- Failures that a built-in method relates are still related when they are reported for the reason
of its call. -/
lemma NativeFault.Tells.toFailure {tells : Failure → Failure → Prop} [Telling tells]
    {fault other : NativeFault} (h : NativeFault.Tells tells fault other)
    (className method : String) (why : ReasonId) :
    tells ((fault.toFailure className method).orReason why)
      ((other.toFailure className method).orReason why) := by
  cases h with
  | failure related => exact Telling.orReason why related
  | own own =>
    -- A method gives no reason of its own, so that the failure is for that of the call.
    cases fault with
    | failure cause => exact absurd rfl (own cause)
    | _ => exact Telling.fresh (.because nofun)

/-! ## Actions -/

/-- How alike actions end that began in `s`. -/
inductive Outcome.Alike {ε α : Type} (tells : ε → ε → Prop) (s : Session) :
    Outcome ε α → Outcome ε α → Prop where
  | done {x s'} : s.Keeps s' → Alike tells s (.done x s') (.done x s')
  | failed {e f s'} : s.Keeps s' → tells e f → Alike tells s (.failed e s') (.failed f s')
  | exhausted : Alike tells s .exhausted .exhausted

/-- The actions end alike in every session in which `calls` are in progress. -/
def Action.Alike {ε α : Type} (tells : ε → ε → Prop) (calls : CallStack) (a b : Action ε α) :
    Prop :=
  ∀ s : Session, s.calls = calls → (a s).Alike tells s (b s)

namespace Outcome.Alike

variable {ε α β : Type} {tells : ε → ε → Prop} {s s' : Session}

/-- What ends alike from a session ends alike from one that the session keeps. -/
lemma ofKeeps (keeps : s.Keeps s') {o o' : Outcome ε α} (h : o.Alike tells s' o') :
    o.Alike tells s o' := by
  cases h with
  | done keeps' => exact .done (keeps.trans keeps')
  | failed keeps' related => exact .failed (keeps.trans keeps') related
  | exhausted => exact .exhausted

/-- What follows an action may look back to how the action ended. -/
lemma bind {a b : Action ε α} {f g : α → Action ε β} (first : (a s).Alike tells s (b s))
    (next : ∀ x now, s.Keeps now → a s = .done x now → (f x now).Alike tells now (g x now)) :
    ((a >>= f) s).Alike tells s ((b >>= g) s) := by
  simp only [Bind.bind]
  generalize a s = o, b s = o' at first next
  cases first with
  | done keeps => exact .ofKeeps keeps (next _ _ keeps rfl)
  | failed keeps related => exact .failed keeps related
  | exhausted => exact .exhausted

/-- If the work in an entered scope ends alike, so it does once the scope has been left. -/
lemma inScope {a b : Action ε α} {scope : ScopeId}
    (h : (a { s with entered := scope :: s.entered }).Alike tells
      { s with entered := scope :: s.entered } (b { s with entered := scope :: s.entered })) :
    (Action.inScope scope a s).Alike tells s (Action.inScope scope b s) := by
  simp only [Action.inScope]
  generalize a { s with entered := scope :: s.entered } = o,
    b { s with entered := scope :: s.entered } = o' at h
  cases h with
  | done keeps => exact .done keeps.leaveScope
  | failed keeps related => exact .failed keeps.leaveScope related
  | exhausted => exact .exhausted

/-- An action that ends loses nothing. -/
lemma keeps {o o' : Outcome ε α} (h : o.Alike tells s o') {x : α} {now : Session}
    (done : o = .done x now) : s.Keeps now := by
  subst done
  cases h with
  | done keeps => exact keeps

end Outcome.Alike

/-- A name that has been declared is bound. -/
lemma Action.binds_of_declare {s s' : Session} {scope : ScopeId} {name : String}
    {info : Justified} {x : Unit} (made : Nat.lt scope s.scopes.size)
    (done : Action.declare scope name info s = .done x s') :
    s'.scopes.binds scope name = true := by
  unfold Action.declare Scopes.declare at done
  cases bound : s.scopes.binds scope name with
  | true =>
    rw [bound] at done
    cases done
  | false =>
    rw [bound] at done
    cases done
    have here : scope = scope ∧ scope < s.scopes.size := ⟨rfl, made⟩
    unfold Scopes.binds Scopes.bind
    rw [Scopes.scopeAt_update, if_pos here, Assoc.contains_insert, decide_eq_true rfl,
      Bool.true_or]

namespace Action.Alike

variable {ε δ α β : Type} {tells : ε → ε → Prop} {calls : CallStack}

/-! ## Rules for the shape of actions -/

/-- Actions in sequence are alike if the first ones are, and what follows each result is. -/
lemma bind {a b : Action ε α} {f g : α → Action ε β} (first : Alike tells calls a b)
    (next : ∀ x, Alike tells calls (f x) (g x)) : Alike tells calls (a >>= f) (b >>= g) :=
  fun s now => .bind (first s now) fun x _ keeps _ => next x _ (keeps.calls.trans now)

/-- Giving a result is alike to itself. -/
lemma pure (x : α) : Alike tells calls (Pure.pure x : Action ε α) (Pure.pure x) :=
  fun s _ => .done (.refl s)

/-- Failures that are related fail alike. -/
lemma fail {e f : ε} (related : tells e f) :
    Alike tells calls (Action.fail e : Action ε α) (Action.fail f) :=
  fun s _ => .failed (.refl s) related

/-- Giving up is alike to itself. -/
lemma giveUp : Alike tells calls (Action.giveUp : Action ε α) Action.giveUp :=
  fun _ _ => .exhausted

/-- Reading from the session is alike to itself. -/
lemma ask (f : Session → α) : Alike tells calls (Action.ask f : Action ε α) (Action.ask f) :=
  fun s _ => .done (.refl s)

/-- What follows a question knows the session that answers it. -/
lemma bindAsk {q : Session → α} {f g : α → Action ε β}
    (next : ∀ s : Session, Alike tells calls (f (q s)) (g (q s))) :
    Alike tells calls (Action.ask q >>= f) (Action.ask q >>= g) :=
  fun s now => next s s now

/-- A change that loses nothing. -/
lemma change {f : Session → Session} (keeps : ∀ s : Session, s.Keeps (f s)) :
    Alike tells calls (Action.change f : Action ε Unit) (Action.change f) :=
  fun s _ => .done (keeps s)

/-- Less may be said of how failures differ. -/
lemma weaken {heard : ε → ε → Prop} {a b : Action ε α} (h : Alike tells calls a b)
    (errors : ∀ e f, tells e f → heard e f) : Alike heard calls a b := by
  intro s now
  have ends := h s now
  generalize a s = o, b s = o' at ends ⊢
  cases ends with
  | done keeps => exact .done keeps
  | failed keeps related => exact .failed keeps (errors _ _ related)
  | exhausted => exact .exhausted

/-- Alike actions stay alike if their failures are changed into related ones. -/
lemma mapError {heard : δ → δ → Prop} {a b : Action ε α} {g g' : ε → δ}
    (h : Alike tells calls a b) (errors : ∀ e f, tells e f → heard (g e) (g' f)) :
    Alike heard calls (a.mapError g) (b.mapError g') := by
  intro s now
  have ends := h s now
  simp only [Action.mapError]
  generalize a s = o, b s = o' at ends
  cases ends with
  | done keeps => exact .done keeps
  | failed keeps related => exact .failed keeps (errors _ _ related)
  | exhausted => exact .exhausted

/-- Alike actions are alike inside of a scope. -/
lemma inScope {a b : Action ε α} (h : Alike tells calls a b) (scope : ScopeId) :
    Alike tells calls (Action.inScope scope a) (Action.inScope scope b) :=
  fun _ now => .inScope (h _ now)

/-- Calls are alike if their bodies are, provided that what these fail with is related outside
of the call when it has left it, and the failure for want of room is related to itself. -/
lemma inCall {outside inside : Failure → Failure → Prop} {a b : Eval α} {frame : Frame}
    {why : ReasonId}
    (full : calls.isFull = true → outside (.because (.recursionLimit (calls.limit.getD 0)) why)
      (.because (.recursionLimit (calls.limit.getD 0)) why))
    (body : calls.isFull = false → Alike inside (calls.enter frame) a b)
    (leaves : calls.isFull = false → ∀ e f, inside e f →
      outside ((calls.enter frame).attach e) ((calls.enter frame).attach f)) :
    Alike outside calls (Action.inCall frame why a) (Action.inCall frame why b) := by
  intro s now
  subst now
  simp only [Action.inCall, CallStack.push]
  cases room : s.calls.isFull with
  | true =>
    simp only [if_true]
    exact .failed (.refl s) (full room)
  | false =>
    simp only [Bool.false_eq_true, if_false]
    have ends := body room { s with calls := s.calls.enter frame } rfl
    generalize a { s with calls := s.calls.enter frame } = o,
      b { s with calls := s.calls.enter frame } = o' at ends
    cases ends with
    | done keeps => exact .done keeps.endCall
    | failed keeps related =>
      have inside := leaves room _ _ related
      rw [← show _ = s.calls.enter frame from keeps.calls] at inside
      exact .failed keeps.endCall inside
    | exhausted => exact .exhausted

/-! ## Reasons, numbers and the console -/

/-- Recording a text is alike to itself, and hides no reason. -/
lemma text (message : String) :
    Alike tells calls (Action.text message : Action ε ReasonId) (Action.text message) :=
  fun s _ => .done (.ofGraph (.push s.graph _ _ _))

/-- Recording that nothing is known is alike to itself. -/
lemma unknown : Alike tells calls (Action.unknown : Action ε ReasonId) Action.unknown :=
  fun s _ => .done (.ofGraph (.push s.graph _ _ _))

/-- What concerns neither calls nor scopes nor reasons. -/
lemma elsewhere {a : Action ε α} (h : ∀ s, ∃ x s', a s = .done x s' ∧ s'.calls = s.calls ∧
    s'.scopes = s.scopes ∧ s'.graph = s.graph) : Alike tells calls a a := by
  intro s _
  obtain ⟨x, s', ends, calls, scopes, graph⟩ := h s
  rw [ends]
  refine .done ⟨calls, ?_, fun scope name bound => ?_, ?_⟩
  · exact Nat.le_of_eq (congrArg Scopes.size scopes.symm)
  · rwa [scopes]
  · rw [graph]
    exact .refl s.graph

/-- Numbering an object is alike to itself. -/
lemma newObjectNumber :
    Alike tells calls (Action.newObjectNumber : Action ε Nat) Action.newObjectNumber :=
  .elsewhere fun _ => ⟨_, _, rfl, rfl, rfl, rfl⟩

/-- Printing is alike to itself, and keeps everything. -/
lemma print (message : String) :
    Alike tells calls (Action.print message : Action ε Unit) (Action.print message) :=
  .elsewhere fun _ => ⟨_, _, rfl, rfl, rfl, rfl⟩

/-- Printing a line is alike to itself, and keeps everything. -/
lemma printLine (message : String) :
    Alike tells calls (Action.printLine message : Action ε Unit) (Action.printLine message) :=
  .elsewhere fun _ => ⟨_, _, rfl, rfl, rfl, rfl⟩

/-- Reading a line is alike to itself, and keeps everything. -/
lemma readLine : Alike tells calls (Action.readLine : Action ε (Option String)) Action.readLine :=
  .elsewhere fun _ => ⟨_, _, rfl, rfl, rfl, rfl⟩

/-- Defining a function is alike to itself. -/
lemma define (function : FunctionDef) :
    Alike tells calls (Action.define function : Action ε FunctionId) (Action.define function) :=
  .elsewhere fun _ => ⟨_, _, rfl, rfl, rfl, rfl⟩

/-- Defining a class is alike to itself. -/
lemma defineClass (classDef : ClassDef) :
    Alike tells calls (Action.defineClass classDef : Action ε ClassId)
      (Action.defineClass classDef) :=
  .elsewhere fun _ => ⟨_, _, rfl, rfl, rfl, rfl⟩

/-- Setting a method of a class is alike to itself, and unbinds no name. -/
lemma setMethod (id : ClassId) (name : String) (function : FunctionId) :
    Alike tells calls (Action.setMethod id name function : Action ε Unit)
      (Action.setMethod id name function) :=
  .elsewhere fun _ => ⟨_, _, rfl, rfl, rfl, rfl⟩

/-! ## Scopes -/

/-- Making a scope is alike to itself. -/
lemma newScope (parent : ScopeId) (description : String) :
    Alike tells calls (Action.newScope parent description : Action ε ScopeId)
      (Action.newScope parent description) :=
  fun s _ => .done (.newScope s _)

/-- Making a scope an object is alike to itself, and unbinds no name. -/
lemma setTag (scope : ScopeId) (tag : ObjectTag) :
    Alike tells calls (Action.setTag scope tag : Action ε Unit) (Action.setTag scope tag) :=
  .change fun s => .updateScope s scope fun _ _ bound => bound

/-- Giving an object another state is alike to itself, and unbinds no name. -/
lemma setHandle (scope : ScopeId) (handle : Handle) :
    Alike tells calls (Action.setHandle scope handle : Action ε Unit)
      (Action.setHandle scope handle) :=
  .change fun s => .updateScope s scope fun _ _ bound => bound

section Telling

variable {tells : Failure → Failure → Prop} [Telling tells]

/-- A failure for a reason. -/
lemma because {fault : Fault} {why : ReasonId} (other : ∀ n, fault ≠ .recursionLimit n) :
    Alike tells calls (Action.fail (.because fault why) : Eval α)
      (Action.fail (.because fault why)) :=
  .fail (Telling.fresh (.because other))

/-- A failure for a reason that shows something of the session. -/
lemma becauseShown {q : Session → α} {fault : α → Fault} {why : ReasonId}
    (other : ∀ shown n, fault shown ≠ .recursionLimit n) :
    Alike tells calls
      (do
        let shown ← Action.ask q
        Action.fail (.because (fault shown) why) : Eval β)
      (do
        let shown ← Action.ask q
        Action.fail (.because (fault shown) why)) := by
  apply bind (ask q)
  intro shown
  exact because (other shown)

/-- Recording a reason is alike to itself: the graph accepts it in both runs or refuses it in both.
-/
lemma record (kind : Kind) (supporters : List ReasonId) (location : Option Location) :
    Alike tells calls (Action.record kind supporters location)
      (Action.record kind supporters location) := by
  intro s _
  unfold Action.record
  cases added : s.graph.add kind supporters location with
  | ok result => exact .done (.ofGraph (.add added))
  | error cause => exact .failed (.refl s) (Telling.fresh (.graph cause))

/-- Recording a conjunction is alike to itself. -/
lemma conj (description : String) (supporters : List ReasonId) :
    Alike tells calls (Action.conj description supporters) (Action.conj description supporters) :=
  record _ _ _

/-- Recording a conjunction with a location is alike to itself. -/
lemma conjAt (description : String) (supporters : List ReasonId) (location : Location) :
    Alike tells calls (Action.conjAt description supporters location)
      (Action.conjAt description supporters location) :=
  record _ _ _

/-- Recording an equality is alike to itself. -/
lemma equal (item value : String) (supporter : ReasonId) :
    Alike tells calls (Action.equal item value supporter) (Action.equal item value supporter) :=
  record _ _ _

/-- Recording what a name has come to mean is alike to itself. -/
lemma full (name value : String) (location : Location) (calling : ReasonId)
    (values : List ReasonId) :
    Alike tells calls (Action.full name value location calling values)
      (Action.full name value location calling values) :=
  record _ _ _

/-- Hiding a reason is alike to itself, and changes no other reason. -/
lemma hide (id : ReasonId) : Alike tells calls (Action.hide id) (Action.hide id) := by
  intro s _
  unfold Action.hide
  cases hidden : s.graph.hide id with
  | ok graph => exact .done (.ofGraph (.hide hidden))
  | error cause => exact .failed (.refl s) (Telling.fresh (.graph cause))

/-- Declaring a name is alike to itself, also when the name is refused the second time. -/
lemma declare (scope : ScopeId) (name : String) (info : Justified) :
    Alike tells calls (Action.declare scope name info) (Action.declare scope name info) := by
  intro s _
  unfold Action.declare Scopes.declare
  cases s.scopes.binds scope name with
  | true => exact .failed (.refl s) (Telling.fresh (.duplicate _ _))
  | false => exact .done (.bind s scope name info)

/-- A declaration that is refused for a reason. -/
lemma declareFor (scope : ScopeId) (name : String) (info : Justified) (why : ReasonId) :
    Alike tells calls ((Action.declare scope name info).mapError (·.withReason why))
      ((Action.declare scope name info).mapError (·.withReason why)) := by
  intro s _
  unfold Action.mapError Action.declare Scopes.declare
  cases s.scopes.binds scope name with
  | true => exact .failed (.refl s) (Telling.fresh (.because nofun))
  | false => exact .done (.bind s scope name info)

/-- An assignment that is refused for a reason. -/
lemma assignFor (scope : ScopeId) (name : String) (info : Justified) (why : ReasonId) :
    Alike tells calls ((Action.assign scope name info).mapError (·.withReason why))
      ((Action.assign scope name info).mapError (·.withReason why)) := by
  intro s _
  unfold Action.mapError Action.assign Scopes.assign
  cases s.scopes.tryFind scope name with
  | none => exact .failed (.refl s) (Telling.fresh (.because nofun))
  | some owner => exact .done (.bind s owner name info)

omit [Telling tells] in
/-- An assignment to a name that the scope itself binds is not refused. -/
lemma assignBound {s : Session} {scope : ScopeId} {name : String} {info : Justified}
    (bound : s.scopes.binds scope name = true) :
    (Action.assign scope name info s).Alike tells s (Action.assign scope name info s) := by
  have found : s.scopes.tryFind scope name = some scope := by
    simp only [Scopes.tryFind, Scopes.chain, Scopes.chainFrom, List.find?_cons, bound]
  unfold Action.assign Scopes.assign
  rw [found]
  exact .done (.bind s scope name info)

/-! ## Built-in methods -/

omit [Telling tells] in
/-- Work of a program inside that of a method. -/
lemma lift {a b : Eval α} (h : Alike tells calls a b) :
    Alike (NativeFault.Tells tells) calls (liftM a : Native α) (liftM b) :=
  .mapError h fun _ _ related => .failure related

/-- Work of a method inside that of a program. -/
lemma toEval {a b : Native α} (h : Alike (NativeFault.Tells tells) calls a b)
    (className method : String) (why : ReasonId) :
    Alike tells calls (Native.toEval className method why a)
      (Native.toEval className method why b) :=
  .mapError h fun _ _ related => related.toFailure className method why

omit [Telling tells] in
/-- A method fails by itself. -/
lemma refuse {fault : NativeFault} (own : ∀ cause, fault ≠ .failure cause) :
    Alike (NativeFault.Tells tells) calls (Action.fail fault : Native α) (Action.fail fault) :=
  .fail (.own own)

end Telling

end Action.Alike

end Because
