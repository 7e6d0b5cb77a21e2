import Because.Proofs.Comparison.Session
import Because.Proofs.Orderly.Change

/-!
# How actions run in orderly sessions

What an action does in an orderly session is said as what it leads to: however it ends, the session
is again orderly and a later one, and a result satisfies its postcondition. A regime says what else
holds in the session while the body of a function runs, and of which calls.
-/

namespace Because

open Session

/-! ## Regimes -/

/-- Whatever in the global scope, and certain names in certain other scopes. -/
def places (names : String → Prop) (visible : List ScopeId) : Places :=
  fun i name => i = globalScope ∨ i ∈ visible ∧ names name

namespace Session

/-- The body of a function is about to run, in a scope of its own below the global one, in which its
parameters are bound to the arguments; no older scope has changed. -/
structure BodyOf (s : Session) (function : FunctionDef) (args : List Justified) (now : Session) :
    Prop where
  grows : s.Grows (fun _ _ => False) now
  parent : now.scopes.parent? s.scopes.size = some globalScope
  bound : ∀ entry ∈ function.params.zip args,
    now.scopes.local? s.scopes.size entry.1 = some entry.2
  entered : now.entered = s.scopes.size :: s.entered
  calls : now.calls = s.calls.enter function.frame
  course : s.Course now

/-- The session in which a block below the current scope has been entered. -/
def inBlock (s : Session) (description : String) : Session :=
  { s.withScope { parent := some s.currentScope, description } with
    entered := s.scopes.size :: s.entered }

/-- A session grows by a block. -/
lemma inBlock_grows {o : Places} (s : Session) (description : String) :
    s.Grows o (s.inBlock description) :=
  { withScope_grows s { parent := some s.currentScope, description } with }

/-- To enter a block is a change. -/
lemma inBlock_course (s : Session) (description : String) : s.Course (s.inBlock description) :=
  .tail (.single (.makeScope rfl)) (.aside _ s.calls s.console s.nextObject)

end Session

/-- What holds while bodies run, and of which calls. It lasts, as all that statements bind is one of
`names` or global; it holds in a block if it does so around it; and calls are ready for which the
receiver is what it has to be. -/
structure Regime where
  names : String → Prop
  holds : Session → Prop
  ready : Session → FunctionId → List Justified → Prop
  lasts {visible : List ScopeId} {s s' : Session} : s.Orderly names → s'.Orderly names →
    holds s → s.Later (places names visible) s' → holds s'
  block {s : Session} (description : String) : s.Orderly names → holds s →
    holds (s.inBlock description)
  receives {s : Session} {f : FunctionId} {args : List Justified} : s.Orderly names → holds s →
    Justified.AllFit s args → s.Receives f args → ready s f args

/-- The body sees its own scope and the global one. -/
lemma Session.BodyOf.visible {s now : Session} {function : FunctionDef} {args : List Justified}
    {names : String → Prop} (h : s.BodyOf function args now) (orderly : now.Orderly names) :
    now.visible = [s.scopes.size, globalScope] := by
  have current : now.currentScope = s.scopes.size := by
    rw [currentScope, h.entered]
    rfl
  rw [Session.visible, current, orderly.rooted.chain_eq, h.parent]
  dsimp only
  rw [orderly.rooted.chain_eq, orderly.global_parent]

namespace Regime

/-- Nothing else is asked. -/
def plain (names : String → Prop) : Regime where
  names := names
  holds _ := True
  ready _ _ _ := True
  lasts _ _ _ _ := trivial
  block _ _ _ := trivial
  receives _ _ _ _ := trivial

variable (R : Regime)

/-- What holds while bodies run holds when the body of the called function starts. -/
def Starts (s : Session) (f : FunctionId) (args : List Justified) : Prop :=
  ∀ now, now.Orderly R.names → args.length = (s.functionAt f).params.length →
    s.BodyOf (s.functionAt f) args now → R.holds now

/-- What holds while bodies run holds when a body starts whose call was ready. -/
def Bodies : Prop :=
  ∀ {s : Session} {f : Nat} {args : List Justified}, s.Orderly R.names →
    f < s.functions.size → R.ready s f args → R.Starts s f args

/-- The session is orderly, and what the regime asks for holds. -/
structure Good (s : Session) : Prop where
  orderly : s.Orderly R.names
  holds : R.holds s

/-- How an action ends that began in `s`, where statements may bind names in `visible` scopes. -/
inductive Leads {ε α : Type} (visible : List ScopeId) (E : ε → Prop) (Q : α → Session → Prop)
    (s : Session) : Outcome ε α → Prop where
  | done {x s'} : R.Good s' → s.Later (places R.names visible) s' → Q x s' →
    Leads visible E Q s (.done x s')
  | failed {e s'} : R.Good s' → s.Later (places R.names visible) s' → E e →
    Leads visible E Q s (.failed e s')
  | exhausted : Leads visible E Q s .exhausted

end Regime

/-! ## Results and errors -/

/-- The fault of a call that has as many arguments as it needs. No call is refused for that. -/
abbrev idleFault : Fault := .arityMismatch "" 0 0

/-- The failure is not the one that no run comes to. -/
def Failure.Calm (failure : Failure) : Prop := failure.fault ≠ idleFault

/-- The fault is not a failure of this kind. -/
def NativeFault.Calm (fault : NativeFault) : Prop :=
  ∀ failure, fault = .failure failure → failure.Calm

/-- A name that is declared twice is no matter of arguments. -/
lemma Failure.Calm.duplicate (name scope : String) :
    (Failure.of (.duplicateDeclaration name scope)).Calm := nofun

/-- There is no room for a call, however many arguments it has. -/
lemma Failure.Calm.recursionLimit (limit : Nat) (why : ReasonId) :
    (Failure.because (.recursionLimit limit) why).Calm := nofun

/-- A calm failure stays calm when it gets a trace. -/
lemma Failure.Calm.attach {failure : Failure} (calm : failure.Calm) (calls : CallStack) :
    (calls.attach failure).Calm := by
  rw [Failure.Calm, calls.attach_fault]
  exact calm

/-- A method that fails calmly makes the program fail calmly. -/
lemma NativeFault.Calm.toFailure {fault : NativeFault} (calm : fault.Calm)
    (className method : String) (why : ReasonId) :
    ((fault.toFailure className method).orReason why).Calm := by
  cases fault with
  | failure cause => exact calm cause rfl
  | _ => nofun

/-- Anything. -/
abbrev Any {α : Type} : α → Session → Prop := fun _ _ => True

/-- The result fits. -/
abbrev Fitting : Justified → Session → Prop := fun info s => info.value.Fits s

/-- All results fit. -/
abbrev AllFitting : List Justified → Session → Prop := fun infos s => Justified.AllFit s infos

/-- What has been returned, if anything has, fits. -/
abbrev FlowFitting : Flow → Session → Prop := fun flow s => flow.Fits s

/-- Only the scopes, classes and functions of the session matter for a property of results. -/
def Lasting {α : Type} (P : α → Session → Prop) : Prop :=
  ∀ x s s', s.SameStore s' → P x s → P x s'

/-- Whether a value fits depends on scopes, classes and functions alone. -/
lemma Value.Fits.lasting {value : Value} {s s' : Session} (same : s.SameStore s')
    (fits : value.Fits s) : value.Fits s' :=
  fits.grows (same.grows : s.Grows (fun _ _ => False) s')

/-- Whether a flow fits depends on scopes, classes and functions alone. -/
lemma flowFitting_lasting : Lasting FlowFitting :=
  fun _ _ _ same fits => Flow.Fits.grows fits (same.grows : Grows (fun _ _ => False) _ _)

/-- Whether a result fits depends on scopes, classes and functions alone. -/
lemma fitting_lasting : Lasting Fitting := fun _ _ _ same fits => fits.lasting same

/-- What is done in two steps may be taken for one. -/
lemma Action.bind_assoc {ε α β γ : Type} (a : Action ε α) (f : α → Action ε β) (g : β → Action ε γ)
    (s : Session) : ((a >>= f) >>= g) s = (a >>= fun x => f x >>= g) s := by
  simp only [Bind.bind]
  cases a s <;> rfl

namespace Regime

variable {R : Regime} {ε δ α β : Type} {v : List ScopeId} {E : ε → Prop} {P : α → Session → Prop}
  {Q : β → Session → Prop} {s s' : Session}

/-- A good session stays good while only what may change has changed. -/
lemma Good.later (good : R.Good s) (orderly : s'.Orderly R.names)
    (later : s.Later (places R.names v) s') : R.Good s' :=
  ⟨orderly, R.lasts good.orderly orderly good.holds later⟩

namespace Leads

/-! ## Rules for the shape of actions -/

/-- What is led to from a later session is led to. -/
lemma of_later (good : R.Good s) (later : s.Later (places R.names v) s') {o : Outcome ε α}
    (h : R.Leads v E P s' o) : R.Leads v E P s o := by
  cases h with
  | done good' later' p => exact .done good' (later.trans good.orderly later') p
  | failed good' later' e => exact .failed good' (later.trans good.orderly later') e
  | exhausted => exact .exhausted

/-- What follows an action may look back to the session in which the action began. -/
lemma bindFrom {a : Action ε α} {f : α → Action ε β} (first : R.Leads v E P s (a s'))
    (next : ∀ x now, R.Good now → s.Later (places R.names v) now → P x now →
      R.Leads v E Q s (f x now)) : R.Leads v E Q s ((a >>= f) s') := by
  simp only [Bind.bind]
  generalize a s' = o at first
  cases first with
  | done good' later p => exact next _ _ good' later p
  | failed good' later e => exact .failed good' later e
  | exhausted => exact .exhausted

/-- What follows an action may rely on what this has come to. -/
lemma bind (good : R.Good s) {a : Action ε α} {f : α → Action ε β} (first : R.Leads v E P s (a s'))
    (next : ∀ x now, R.Good now → s.Later (places R.names v) now → P x now →
      R.Leads v E Q now (f x now)) : R.Leads v E Q s ((a >>= f) s') :=
  .bindFrom first fun x now good' later p => .of_later good later (next x now good' later p)

/-- What holds of the result may be weakened. -/
lemma weaken {P' : α → Session → Prop} {o : Outcome ε α} (h : R.Leads v E P s o)
    (weaker : ∀ {x now}, R.Good now → s.Later (places R.names v) now → P x now → P' x now) :
    R.Leads v E P' s o := by
  cases h with
  | done good later p => exact .done good later (weaker good later p)
  | failed good later e => exact .failed good later e
  | exhausted => exact .exhausted

/-- More scopes may be visible. -/
lemma widen {v' : List ScopeId} {o : Outcome ε α} (h : R.Leads [] E P s o) :
    R.Leads v' E P s o := by
  have wider (i : ScopeId) (name : String) (opens : places R.names [] i name) :
      places R.names v' i name := opens.imp_right fun none => absurd none.1 List.not_mem_nil
  cases h with
  | done good later p => exact .done good (later.widen wider) p
  | failed good later e => exact .failed good (later.widen wider) e
  | exhausted => exact .exhausted

/-- Another wording of errors is fine if they are still what they should be. -/
lemma mapError {F : δ → Prop} {g : ε → δ} {a : Action ε α} (h : R.Leads v E P s (a s'))
    (errors : ∀ e, E e → F (g e)) : R.Leads v F P s (a.mapError g s') := by
  simp only [Action.mapError]
  generalize a s' = o at h
  cases h with
  | done good later p => exact .done good later p
  | failed good later e => exact .failed good later (errors _ e)
  | exhausted => exact .exhausted

/-- A result that is there is fine. -/
lemma pure (good : R.Good s) {x : α} (p : P x s) : R.Leads v E P s ((Pure.pure x : Action ε α) s) :=
  .done good (.refl _ s) p

/-- A failure is fine if it is what it should be. -/
lemma fail (good : R.Good s) {e : ε} (h : E e) :
    R.Leads v E P s ((Action.fail e : Action ε α) s) :=
  .failed good (.refl _ s) h

/-- A question is answered by the session of the moment. -/
lemma ask {x : Session → α} {f : α → Action ε β} (h : R.Leads v E Q s (f (x s') s')) :
    R.Leads v E Q s ((Action.ask x >>= f) s') := h

/-- A new scope comes last. -/
lemma newScope {parent : ScopeId} {description : String} {f : ScopeId → Action ε β}
    (h : R.Leads v E Q s (f s'.scopes.size (s'.withScope { parent := some parent, description }))) :
    R.Leads v E Q s ((Action.newScope parent description >>= f) s') := h

/-- Nothing changes but reasons and the console. -/
lemma quiet (good : R.Good s) {graph : Graph} {console : Console} {x : α}
    (change : s.Change { s with graph, console }) (p : P x { s with graph, console }) :
    R.Leads v E P s (.done x { s with graph, console }) := by
  have later : s.Later (places R.names v) { s with graph, console } :=
    ⟨SameStore.grows ⟨rfl, rfl, rfl⟩, ⟨rfl, rfl⟩, .single change⟩
  have orderly : Orderly R.names { s with graph, console } :=
    good.orderly.sameStore ⟨rfl, rfl, rfl⟩ good.orderly.entered good.orderly.frames
  exact .done (good.later orderly later) later p

/-! ## Reasons and the console -/

/-- A text may be recorded. -/
lemma text (good : R.Good s) (message : String) : R.Leads v E Any s (Action.text message s) :=
  .quiet good (.tell trivial) trivial

/-- An unknown reason may be recorded. -/
lemma unknown (good : R.Good s) : R.Leads v E Any s (Action.unknown s) :=
  .quiet good (.tell trivial) trivial

/-- Printing is always fine. -/
lemma print (good : R.Good s) (message : String) : R.Leads v E Any s (Action.print message s) :=
  .quiet good (.aside ..) trivial

/-- Printing a line is always fine. -/
lemma printLine (good : R.Good s) (message : String) :
    R.Leads v E Any s (Action.printLine message s) :=
  .quiet good (.aside ..) trivial

/-- Reading a line is always fine. -/
lemma readLine (good : R.Good s) : R.Leads v E Any s (Action.readLine s) :=
  .quiet good (.aside ..) trivial

/-- A conclusion is recorded as the newest reason. -/
lemma record (good : R.Good s) (kind : Kind) (supporters : List ReasonId)
    (location : Option Location) (founded : kind.Founded supporters) :
    R.Leads v Failure.Calm
      (fun id now => id = s.graph.size ∧ s.graph.Knows supporters ∧
        ∃ location, now = { s with graph := s.graph.push kind supporters location }) s
      (Action.record kind supporters location s) := by
  unfold Action.record Graph.add
  cases late : s.graph.firstLate? supporters with
  | none =>
    have known : s.graph.Knows supporters := fun j mem => by
      simpa using List.find?_eq_none.1 late j mem
    exact .quiet good (.conclude _ known founded) ⟨rfl, known, _, rfl⟩
  | some late => exact .failed good (.refl _ s) nofun

/-- A conjunction of at least one supporter may be recorded. -/
lemma conj (good : R.Good s) (description : String) (supporter : ReasonId)
    (supporters : List ReasonId) :
    R.Leads v Failure.Calm Any s (Action.conj description (supporter :: supporters) s) :=
  (record good _ (supporter :: supporters) _ nofun).weaken fun _ _ _ => trivial

/-- A located conjunction may be recorded, and only the graph changes. -/
lemma conjAt (good : R.Good s) (description : String) (supporter : ReasonId)
    (supporters : List ReasonId) (location : Location) :
    R.Leads v Failure.Calm (fun _ now => ∃ graph, now = { s with graph }) s
      (Action.conjAt description (supporter :: supporters) location s) :=
  (record good _ (supporter :: supporters) _ nofun).weaken fun _ _ ⟨_, _, _, same⟩ => ⟨_, same⟩

/-- What an item equals may be recorded. -/
lemma equal (good : R.Good s) (item value : String) (supporter : ReasonId) :
    R.Leads v Failure.Calm Any s (Action.equal item value supporter s) :=
  (record good _ [supporter] _ nofun).weaken fun _ _ _ => trivial

/-- The record of a value gets the next number, if it rests on recorded reasons. -/
lemma full (good : R.Good s) (name value : String) (location : Location) (calling : ReasonId)
    (values : List ReasonId) :
    R.Leads v Failure.Calm
      (fun id now => id = s.graph.size ∧ s.graph.Knows (calling :: values) ∧
        ∃ location, now = { s with
          graph := s.graph.pushFull name value calling values location }) s
      (Action.full name value location calling values s) :=
  record good _ (calling :: values) _ nofun

/-- Hiding a reason is always fine. -/
lemma hide (good : R.Good s) (id : ReasonId) :
    R.Leads v Failure.Calm Any s (Action.hide id s) := by
  unfold Action.hide Graph.hide
  split
  · rename_i graph found
    split at found
    · cases found
      exact .quiet good (.hide id) trivial
    · cases found
  · exact .failed good (.refl _ s) nofun

/-- A tidy function gets the next number. -/
lemma define (good : R.Good s) (function : FunctionDef) (tidy : function.Tidy R.names)
    (owner : ∀ owner : Nat, function.owner = some owner → owner < s.classes.size)
    (wires : s.Wires function) :
    R.Leads v E (fun f now => f = s.functions.size ∧ s.withFunction function = now) s
      (Action.define function s) := by
  have later : s.Later (places R.names v) (s.withFunction function) :=
    ⟨withFunction_grows s function, ⟨rfl, rfl⟩, .single (.makeFunction owner wires)⟩
  exact .done (good.later (good.orderly.withFunction tidy owner) later) later ⟨rfl, rfl⟩

/-- A failure for any other reason than a number of arguments. -/
lemma because (good : R.Good s) {fault : Fault} {why : ReasonId}
    (plain : ∀ name got, fault ≠ .arityMismatch name 0 got) :
    R.Leads v Failure.Calm P s ((Action.fail (.because fault why) : Eval α) s) :=
  .fail good (plain _ _)

/-! ## Scopes -/

/-- A name that a scope does not bind yet may be bound where names are open. -/
lemma declare (good : R.Good s) {i : ScopeId} {name : String} {info : Justified}
    (ordinary : s.Ordinary i) (opens : places R.names v i name) (fits : info.value.Fits s) :
    R.Leads v Failure.Calm (fun _ now => { s with scopes := s.scopes.bind i name info } = now) s
      (Action.declare i name info s) := by
  unfold Action.declare Scopes.declare
  cases free : s.scopes.binds i name with
  | true => exact .failed good (.refl _ s) (.duplicate _ _)
  | false =>
    have later : s.Later (places R.names v) { s with scopes := s.scopes.bind i name info } :=
      ⟨bind_grows (.inr opens) info, ⟨rfl, rfl⟩, .single (.declare ordinary.untagged free)⟩
    have orderly : Orderly R.names { s with scopes := s.scopes.bind i name info } :=
      good.orderly.bindScope ordinary.noImpl fits
    exact .done (good.later orderly later) later rfl

/-- The value that has just been recorded is assigned. -/
lemma assign (good : R.Good s) {i : ScopeId} {name shown text : String} {value : Value}
    {calling : ReasonId} {values : List ReasonId} {location : Option Location}
    (recorded : s.graph.Knows (calling :: values))
    (place : ∀ owner, s.scopes.tryFind i name = some owner → ¬ s.IsImpl owner ∧
      ((s.scopes.scopeAt owner).tag.isSome ∨ places R.names v owner name) ∧
      s.Change { s with
        graph := s.graph.pushFull shown text calling values location
        scopes := s.scopes.bind owner name ⟨value, s.graph.size⟩ })
    (fits : value.Fits s) :
    R.Leads v Failure.Calm Any s (Action.assign i name ⟨value, s.graph.size⟩ { s with
      graph := s.graph.pushFull shown text calling values location }) := by
  have orderly (graph : Graph) (scopes : Scopes) : Orderly R.names { s with scopes } →
      Orderly R.names { s with graph, scopes } :=
    fun h => h.sameStore ⟨rfl, rfl, rfl⟩ h.entered h.frames
  simp only [Action.assign, Scopes.assign]
  cases found : s.scopes.tryFind i name with
  | none =>
    have later : s.Later (places R.names v)
        { s with graph := s.graph.pushFull shown text calling values location } :=
      ⟨SameStore.grows ⟨rfl, rfl, rfl⟩, ⟨rfl, rfl⟩, .single (.conclude location recorded nofun)⟩
    exact .failed (good.later (orderly _ _ good.orderly) later) later nofun
  | some owner =>
    obtain ⟨noImpl, place, change⟩ := place owner found
    have later : s.Later (places R.names v) { s with
        graph := s.graph.pushFull shown text calling values location
        scopes := s.scopes.bind owner name ⟨value, s.graph.size⟩ } :=
      ⟨{ bind_grows place ⟨value, s.graph.size⟩ with }, ⟨rfl, rfl⟩, .single change⟩
    have bound : Orderly R.names
        { s with scopes := s.scopes.bind owner name ⟨value, s.graph.size⟩ } :=
      good.orderly.bindScope noImpl fits
    exact .done (good.later (orderly _ _ bound) later) later trivial

/-- An object may get another state of the same kind. -/
lemma setHandle (good : R.Good s) {i : ScopeId} {handle : Handle}
    (kind : (s.kind? i).bind Prod.snd = some handle.builtin) (fits : handle.Fits s) :
    R.Leads v E Any s (Action.setHandle i handle s) := by
  have change : s.Change { s with scopes := s.scopes.update i fun data =>
      { data with tag := data.tag.map fun tag => { tag with handle := some handle } } } := by
    obtain ⟨_, known, state⟩ := Option.bind_eq_some_iff.1 kind
    obtain ⟨tag, tagged, rfl⟩ := Option.map_eq_some_iff.1 known
    exact .setHandle tagged state
  have later : s.Later (places R.names v) { s with scopes := s.scopes.update i fun data =>
      { data with tag := data.tag.map fun tag => { tag with handle := some handle } } } :=
    ⟨setHandle_grows kind, ⟨rfl, rfl⟩, .single change⟩
  exact .done (good.later (good.orderly.setHandle kind fits) later) later trivial

end Leads

/-! ## Blocks -/

/-- A good session stays good when a block is entered. -/
lemma Good.inBlock (good : R.Good s) (description : String) : R.Good (s.inBlock description) := by
  have made : (s.withScope { parent := some s.currentScope, description }).Orderly R.names :=
    good.orderly.withScope rfl good.orderly.currentScope nofun nofun
  exact ⟨made.enterScope (good.orderly.ordinary_new rfl),
    R.block description good.orderly good.holds⟩

/-- In a block the new scope is visible, and then all that is visible around it. -/
lemma Good.visible_inBlock (good : R.Good s) (description : String) :
    (s.inBlock description).visible = s.scopes.size :: s.visible := by
  have grows : s.Grows (fun _ _ => False) (s.inBlock description) := inBlock_grows s description
  have rooted := (good.inBlock description).orderly.rooted
  have made : (s.inBlock description).scopes.parent? s.scopes.size = some s.currentScope :=
    congrArg Scope.parent ((scopeAt_withScope ..).trans (if_pos rfl))
  have current : (s.inBlock description).currentScope = s.scopes.size := rfl
  rw [visible, current, rooted.chain_eq, made]
  exact congrArg (s.scopes.size :: ·)
    (grows.chain good.orderly.rooted rooted good.orderly.currentScope.made)

namespace Leads

variable {R' : Regime}

/-- What holds by another regime, or by none, holds by a regime that holds from the beginning. -/
lemma regain (good : R.Good s) {o : Outcome ε α} (h : (plain R.names).Leads v E P s o) :
    R.Leads v E P s o := by
  cases h with
  | done good' later p => exact .done (good.later good'.orderly later) later p
  | failed good' later e => exact .failed (good.later good'.orderly later) later e
  | exhausted => exact .exhausted

/-- Work in a scope, which may have a regime of its own. What is open in the scope and is not open
around it has to be new. -/
lemma inScope {w : List ScopeId} {i : ScopeId} {action : Eval α} (good : R.Good s)
    (held : s.SameStacks s') (grows : s.Grows (places R.names v) s') (course : s.Course s')
    (narrow : ∀ (i : Nat) name, places R.names w i name → i < s.scopes.size →
      places R.names v i name)
    (lasting : Lasting P)
    (inside : R'.Leads w Failure.Calm P { s' with entered := i :: s'.entered }
      (action { s' with entered := i :: s'.entered })) (same : R'.names = R.names) :
    R.Leads v Failure.Calm P s (Action.inScope i action s') := by
  have leave (now : Session) (good' : R'.Good now)
      (later : Later (places R'.names w) { s' with entered := i :: s'.entered } now) :
      R.Good { now with entered := now.entered.tail } ∧
        s.Later (places R.names v) { now with entered := now.entered.tail } := by
    rw [same] at later
    have orderly : now.Orderly R.names := same ▸ good'.orderly
    have later' : s.Later (places R.names v) { now with entered := now.entered.tail } := by
      refine ⟨?_, held.trans later.same.leaveScope, ?_⟩
      · exact grows.trans good.orderly.implScope_lt { later.grows with } narrow
      · -- The scope is entered at first, and left in the end.
        have enters := course.tail (.aside (i :: s'.entered) s'.calls s'.console s'.nextObject)
        exact (enters.trans later.course).tail (.aside _ now.calls now.console now.nextObject)
    exact ⟨good.later orderly.leaveScope later', later'⟩
  simp only [Action.inScope]
  generalize action { s' with entered := i :: s'.entered } = o at inside
  cases inside with
  | @done x now good' later p =>
    obtain ⟨good'', later'⟩ := leave now good' later
    have same : now.SameStore { now with entered := now.entered.tail } := ⟨rfl, rfl, rfl⟩
    exact .done good'' later' (lasting _ _ _ same p)
  | @failed e now good' later calm =>
    obtain ⟨good'', later'⟩ := leave now good' later
    exact .failed good'' later' calm
  | exhausted => exact .exhausted

/-- Work in a new block below the current scope. -/
lemma inBlock (good : R.Good s) (description : String) {action : Eval α} (lasting : Lasting P)
    (inside : R.Leads (s.inBlock description).visible Failure.Calm P (s.inBlock description)
      (action (s.inBlock description))) :
    R.Leads s.visible Failure.Calm P s
      (Action.inScope s.scopes.size action
        (s.withScope { parent := some s.currentScope, description })) := by
  refine .inScope good ⟨rfl, rfl⟩ (withScope_grows s _) (.single (.makeScope rfl))
    (fun i name opens lt => ?_) lasting inside rfl
  rw [good.visible_inBlock] at opens
  refine opens.imp_right fun ⟨mem, allowed⟩ => ⟨?_, allowed⟩
  exact (List.mem_cons.1 mem).resolve_left (Nat.ne_of_lt lt)

/-- Work that is a call, once there is room for it. -/
lemma inCall {names : String → Prop} {frame : Frame} {why : ReasonId} {action : Eval α}
    (orderly : s.Orderly names)
    (lasting : Lasting P)
    (inside : (plain names).Leads [] Failure.Calm P { s with calls := s.calls.enter frame }
      (action { s with calls := s.calls.enter frame })) :
    (plain names).Leads [] Failure.Calm P s (Action.inCall frame why action s) := by
  have leave (now : Session) (good' : (plain names).Good now)
      (later : Later (places names []) { s with calls := s.calls.enter frame } now) :
      (plain names).Good { now with calls := now.calls.pop } ∧
        s.Later (places names []) { now with calls := now.calls.pop } := by
    refine ⟨⟨good'.orderly.endCall, trivial⟩, { later.grows with }, later.same.popCall, ?_⟩
    have begins : s.Course { s with calls := s.calls.enter frame } :=
      .single (.aside s.entered _ s.console s.nextObject)
    exact (begins.trans later.course).tail (.aside now.entered _ now.console now.nextObject)
  cases room : s.calls.isFull with
  | true =>
    rw [Action.inCall_full room]
    exact .failed ⟨orderly, trivial⟩ (.refl _ s) (Failure.Calm.recursionLimit _ why)
  | false =>
    cases ends : action { s with calls := s.calls.enter frame } with
    | done x now =>
      rw [Action.inCall_done room why ends]
      rw [ends] at inside
      cases inside with
      | done good' later p =>
        obtain ⟨good'', later'⟩ := leave now good' later
        have same : now.SameStore { now with calls := now.calls.pop } := ⟨rfl, rfl, rfl⟩
        exact .done good'' later' (lasting _ _ _ same p)
    | failed e now =>
      rw [Action.inCall_failed room why ends]
      rw [ends] at inside
      cases inside with
      | failed good' later calm =>
        obtain ⟨good'', later'⟩ := leave now good' later
        exact .failed good'' later' (calm.attach _)
    | exhausted =>
      rw [Action.inCall_exhausted room why ends]
      exact .exhausted

end Leads

end Regime

end Because
