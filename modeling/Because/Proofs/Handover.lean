import Because.Proofs.Chronicle.Run
import Because.Proofs.Construction
import Because.Proofs.Forwarding
import Because.Proofs.Integrity

/-!
# Calls of built-in methods

A built-in method is called where a statement hands over to it. What `self` and the parameters mean
there are the object and the arguments of the call. In a sound session nothing is refused on the
way: the method gets these arguments, and what it gives or fails with is what comes of the
statement. Besides what the method does, only reasons are recorded.
-/

namespace Because

namespace Session

variable {s s' s'' : Session}

/-! ## Recording reasons -/

/-- Only reasons have come on top, in their order. -/
structure Notes (s s' : Session) : Prop where
  same : s' = { s with graph := s'.graph }
  graph : s.graph.size ≤ s'.graph.size
  ordered : s.graph.Ordered → s'.graph.Ordered

/-- What is read from a variable rests on a reason that has been recorded. -/
def KnowsVariables (s : Session) : Prop :=
  ∀ name stored, s.scopes.tryGet s.currentScope name = some stored → stored.why < s.graph.size

/-- In a sound session the values of variables rest on reasons that have been recorded. -/
lemma Sound.knowsVariables (h : s.Sound) : s.KnowsVariables :=
  fun _ _ found => (Scopes.In.tryGet h.known.scopes found).2

namespace Notes

/-- If nothing has happened, only reasons have come on top, namely none. -/
lemma refl (s : Session) : s.Notes s := ⟨rfl, Nat.le_refl _, id⟩

/-- Only reasons have come on top if only reasons came on top twice. -/
lemma trans (h : s.Notes s') (h' : s'.Notes s'') : s.Notes s'' := by
  refine ⟨?_, Nat.le_trans h.graph h'.graph, h'.ordered ∘ h.ordered⟩
  rw [h'.same, h.same]

/-- A reason has been recorded. -/
lemma push {kind : Kind} {supporters : List ReasonId} (known : s.graph.Knows supporters)
    (rests : kind.Rests supporters) (location : Option Location) :
    s.Notes { s with graph := s.graph.push kind supporters location } where
  same := rfl
  graph := Nat.le.intro (Graph.size_push ..).symm
  ordered ordered := ordered.push known rests location

/-- A reason has been recorded that rests on nothing. -/
lemma leaf {kind : Kind} (leaf : kind.IsLeaf) :
    s.Notes { s with graph := s.graph.push kind [] none } := by
  refine push (List.forall_mem_nil _) ?_ none
  cases kind with
  | text | unknown => trivial
  | conj | equal | full => exact leaf.elim

/-- Reasons that have been recorded stay so. -/
lemma knows {ids : List ReasonId} (h : s.Notes s') (known : s.graph.Knows ids) :
    s'.graph.Knows ids :=
  fun j mem => Nat.lt_of_lt_of_le (known j mem) h.graph

/-- Scopes stay as they are. -/
lemma scopes (h : s.Notes s') : s'.scopes = s.scopes := by rw [h.same]

/-- Variables keep their values. -/
lemma tryGet (h : s.Notes s') (name : String) :
    s'.scopes.tryGet s'.currentScope name = s.scopes.tryGet s.currentScope name := by
  rw [h.same]
  rfl

/-- The values of variables still rest on recorded reasons. -/
lemma knowsVariables (h : s.Notes s') (known : s.KnowsVariables) : s'.KnowsVariables := by
  intro name stored found
  rw [h.tryGet] at found
  exact Nat.lt_of_lt_of_le (known name stored found) h.graph

/-- Objects keep their states. -/
lemma handle? (h : s.Notes s') (value : Value) : s'.handle? value = s.handle? value := by
  rw [h.same]
  rfl

/-- Reasons that rest on older ones keep a session sound. -/
lemma sound (h : s.Notes s') (sound : s.Sound) : s'.Sound := by
  have known : s.In s'.census := by
    refine sound.known.mono ?_
    rw [h.same]
    exact census_le h.graph (Nat.le_refl _) (fun _ tagged => tagged) (Nat.le_refl _) (Nat.le_refl _)
  have ordered := h.ordered sound.ordered
  rw [h.same] at known ordered ⊢
  exact ⟨{ known with }, ordered⟩

end Notes

/-- Only reasons have come on top, and the others are as they were. -/
structure Tells (s s' : Session) : Prop extends s.Notes s' where
  grows : s.graph.Grows s'.graph

/-- If nothing has happened, no reason has changed. -/
lemma Tells.refl (s : Session) : s.Tells s := ⟨.refl s, .refl _⟩

/-- Reasons may come on top one after the other. -/
lemma Tells.trans (h : s.Tells s') (h' : s'.Tells s'') : s.Tells s'' :=
  ⟨h.toNotes.trans h'.toNotes, h.grows.trans h'.grows⟩

/-- A reason of this kind has been recorded. -/
structure Adduces (s : Session) (kind : Kind) (supporters : List ReasonId) (s' : Session) :
    Prop extends s.Tells s' where
  pushed : ∃ location, s'.graph = s.graph.push kind supporters location

section

variable {kind : Kind} {supporters : List ReasonId}

/-- The reason that has been recorded has its kind and its supporters. -/
lemma Adduces.node (h : s.Adduces kind supporters s') : ∃ location,
    s'.graph.nodes[s.graph.size]? = some ⟨s.graph.size, kind, supporters, true, location⟩ := by
  obtain ⟨location, pushed⟩ := h.pushed
  refine ⟨location, ?_⟩
  rw [pushed]
  exact Array.getElem?_push_size

/-- The reason that has been recorded is there. -/
lemma Adduces.fresh (h : s.Adduces kind supporters s') : Nat.lt s.graph.size s'.graph.size := by
  obtain ⟨location, found⟩ := h.node
  exact Graph.lt_size found

/-- A reason that rests on recorded ones can be recorded. -/
lemma records_push (known : s.graph.Knows supporters) (rests : kind.Rests supporters)
    (location : Option Location) :
    s.Adduces kind supporters { s with graph := s.graph.push kind supporters location } where
  toNotes := .push known rests location
  grows := .push ..
  pushed := ⟨location, rfl⟩

end

/-- A text can be recorded. -/
lemma records_text (s : Session) (message : String) :
    s.Adduces (.text message) [] { s with graph := s.graph.push (.text message) [] none } :=
  @records_push s (.text message) [] (List.forall_mem_nil _) trivial none

/-- Only reasons, objects and other scopes have come on top, and stay where the run is. -/
structure Adds (s s' : Session) : Prop where
  graph : s.graph.size ≤ s'.graph.size
  scopes : s.scopes.size ≤ s'.scopes.size
  old : ∀ i : Nat, i < s.scopes.size → s'.scopes.scopeAt i = s.scopes.scopeAt i
  classes : s'.classes = s.classes
  functions : s'.functions = s.functions

namespace Adds

/-- If nothing has happened, nothing has come on top. -/
lemma refl (s : Session) : s.Adds s := ⟨Nat.le_refl _, Nat.le_refl _, fun _ _ => rfl, rfl, rfl⟩

/-- Things may come on top one after the other. -/
lemma trans (h : s.Adds s') (h' : s'.Adds s'') : s.Adds s'' where
  graph := Nat.le_trans h.graph h'.graph
  scopes := Nat.le_trans h.scopes h'.scopes
  old i lt := (h'.old i (Nat.lt_of_lt_of_le lt h.scopes)).trans (h.old i lt)
  classes := h'.classes.trans h.classes
  functions := h'.functions.trans h.functions

/-- A graph that has not lost reasons comes on top. -/
lemma of_graph {graph : Graph} (grows : s.graph.size ≤ graph.size) : s.Adds { s with graph } :=
  ⟨grows, Nat.le_refl _, fun _ _ => rfl, rfl, rfl⟩

/-- Where only reasons have come on top, all else is as it was. -/
lemma of_notes (h : s.Notes s') : s.Adds s' := by
  rw [h.same]
  exact .of_graph h.graph

/-- Reasons that have been recorded stay so. -/
lemma knows {ids : List ReasonId} (h : s.Adds s') (known : s.graph.Knows ids) :
    s'.graph.Knows ids :=
  fun j mem => Nat.lt_of_lt_of_le (known j mem) h.graph

/-- Classes stay as they are. -/
lemma classAt (h : s.Adds s') (id : ClassId) : s'.classAt id = s.classAt id := by
  rw [Session.classAt, h.classes, ← Session.classAt]

/-- Functions stay as they are. -/
lemma functionAt (h : s.Adds s') (f : FunctionId) : s'.functionAt f = s.functionAt f := by
  rw [Session.functionAt, h.functions, ← Session.functionAt]

/-- Scopes that were there bind what they have bound. -/
lemma local? {i : ScopeId} (h : s.Adds s') (made : Nat.lt i s.scopes.size) (name : String) :
    s'.scopes.local? i name = s.scopes.local? i name := by
  rw [Scopes.local?, h.old i made, ← Scopes.local?]

/-- Scopes that were there bind no further names. -/
lemma binds {i : ScopeId} (h : s.Adds s') (made : Nat.lt i s.scopes.size) (name : String) :
    s'.scopes.binds i name = s.scopes.binds i name := by
  rw [Scopes.binds, h.old i made, ← Scopes.binds]

/-- A name goes on to denote the same class. -/
lemma lookupClass? (h : s.Adds s') (global : Nat.lt globalScope s.scopes.size) (name : String) :
    s'.lookupClass? name = s.lookupClass? name := by
  simp only [Session.lookupClass?, Session.global?, h.local? global]

/-- An object that has a state keeps it, and its class. -/
lemma tag? (h : s.Adds s') {value : Value} {tag : ObjectTag} (tagged : s.tag? value = some tag) :
    s'.tag? value = some tag := by
  obtain ⟨i, is, found⟩ := Option.bind_eq_some_iff.1 tagged
  have lt : Nat.lt i s.scopes.size := Comparison.lt_size_of_tag (found ▸ rfl)
  rw [Session.tag?, is, Option.bind_some, h.old i lt, found]

/-- Objects that were there keep their states. -/
lemma handle? (h : s.Adds s') {value : Value} {handle : Handle}
    (state : s.handle? value = some handle) : s'.handle? value = some handle := by
  obtain ⟨tag, tagged, holds⟩ := Option.bind_eq_some_iff.1 state
  rw [Session.handle?, h.tag? tagged, Option.bind_some, holds]

/-- Objects that were there keep their classes. -/
lemma classOf? (h : s.Adds s') {value : Value} {id : ClassId}
    (ofClass : s.classOf? value = some id) : s'.classOf? value = some id := by
  obtain ⟨tag, tagged, same⟩ := Option.map_eq_some_iff.1 ofClass
  rw [Session.classOf?, h.tag? tagged, Option.map_some, same]

end Adds

/-- The run is where it was, and nothing has been printed or read. -/
structure Quiet (s s' : Session) : Prop extends SameStacks s s' where
  console : s'.console = s.console

namespace Quiet

/-- If nothing has happened, the run is where it was. -/
lemma refl (s : Session) : s.Quiet s := ⟨.refl s, rfl⟩

/-- Two quiet changes are a quiet one. -/
lemma trans (h : s.Quiet s') (h' : s'.Quiet s'') : s.Quiet s'' where
  toSameStacks := h.toSameStacks.trans h'.toSameStacks
  console := h'.console.trans h.console

/-- Recording reasons is quiet. -/
lemma of_notes (h : s.Notes s') : s.Quiet s' := by
  rw [h.same]
  exact ⟨⟨rfl, rfl⟩, rfl⟩

end Quiet

/-- A reason is recorded. -/
lemma record_records {kind : Kind} {supporters : List ReasonId} (known : s.graph.Knows supporters)
    (rests : kind.Rests supporters) (location : Option Location) :
    ∃ s', Action.record kind supporters location s = .done s.graph.size s' ∧
      s.Adduces kind supporters s' := by
  refine ⟨_, ?_, records_push known rests (s.graph.locate supporters location)⟩
  simp only [Action.record, Graph.add_ok known]

/-- A reason that rests on recorded ones is recorded under the next number. -/
lemma record_done {kind : Kind} {supporters : List ReasonId} (known : s.graph.Knows supporters)
    (rests : kind.Rests supporters) (location : Option Location) :
    ∃ s', Action.record kind supporters location s = .done s.graph.size s' ∧ s.Notes s' ∧
      s.graph.size < s'.graph.size := by
  obtain ⟨s', told, records⟩ := record_records known rests location
  exact ⟨s', told, records.toNotes, records.fresh⟩

/-- A conjunction of recorded reasons is recorded under the next number. -/
lemma conj_done {supporters : List ReasonId} (known : s.graph.Knows supporters)
    (description : String) :
    ∃ s', Action.conj description supporters s = .done s.graph.size s' ∧ s.Notes s' ∧
      s.graph.size < s'.graph.size :=
  @record_done s (.conj description) _ known trivial none

/-- A record of a value for recorded reasons is recorded under the next number. -/
lemma full_done {calling : ReasonId} {values : List ReasonId}
    (known : s.graph.Knows (calling :: values)) (name value : String) (location : Location) :
    ∃ s', Action.full name value location calling values s = .done s.graph.size s' ∧ s.Notes s' ∧
      s.graph.size < s'.graph.size :=
  @record_done s (.full name value calling values) _ known rfl (some location)

/-- A reason that has been recorded can be hidden. -/
lemma hide_done {id : ReasonId} (known : Nat.lt id s.graph.size) :
    ∃ s', Action.hide id s = .done () s' ∧ s.Notes s' := by
  refine ⟨{ s with graph := s.graph.hideAt id }, ?_, ⟨rfl,
    Nat.le_of_eq (Graph.size_hideAt id).symm, fun ordered => ordered.hideAt id⟩⟩
  simp only [Action.hide, Graph.hide_ok known]

/-! ## What names mean -/

/-- What a name means in the scopes that have been entered. -/
def meaning? (s : Session) (name : String) : Option Value :=
  (s.scopes.tryGet s.currentScope name).map Justified.value

/-- Names keep their meaning when reasons are recorded. -/
lemma Notes.meaning? (h : s.Notes s') (name : String) : s'.meaning? name = s.meaning? name := by
  rw [Session.meaning?, h.tryGet, ← Session.meaning?]

/-- What is read from a variable holds because the name has got its value. -/
lemma lookupVariable_reads {name : String} {stored : Justified}
    (found : s.scopes.tryGet s.currentScope name = some stored) (loc : Location) {why : ReasonId}
    (known : s.graph.Knows [why, stored.why]) :
    ∃ s', lookupVariable name loc why s = .done ⟨stored.value, s.graph.size⟩ s' ∧
      s.Adduces (.full name (s.render stored.value) why [stored.why]) [why, stored.why] s' := by
  obtain ⟨s', read, records⟩ := @record_records s
    (.full name (s.render stored.value) why [stored.why]) _ known rfl (some loc)
  refine ⟨s', ?_, records⟩
  have read : Action.full name (s.render stored.value) loc why [stored.why] s =
      .done s.graph.size s' := read
  simp only [lookupVariable, Bind.bind, Action.currentScope, Action.ask, Scopes.get, found,
    Action.render, read]
  rfl

/-- A variable is read if its name means something. -/
lemma lookupVariable_cases (known : s.KnowsVariables) (name : String) (loc : Location)
    {why : ReasonId} (recorded : Nat.lt why s.graph.size) :
    (∃ info s', lookupVariable name loc why s = .done info s' ∧ s.Notes s' ∧
      s.meaning? name = some info.value ∧ info.why < s'.graph.size) ∨
    ∃ failure s', lookupVariable name loc why s = .failed failure s' ∧ s.Notes s' ∧
      s.meaning? name = none := by
  cases found : s.scopes.tryGet s.currentScope name with
  | some stored =>
    have supported : s.graph.Knows [why, stored.why] :=
      List.forall_mem_cons.2 ⟨recorded, List.forall_mem_singleton.2 (known name stored found)⟩
    obtain ⟨s', read, records⟩ := lookupVariable_reads found loc supported
    refine .inl ⟨⟨stored.value, s.graph.size⟩, s', read, records.toNotes, ?_, records.fresh⟩
    rw [meaning?, found, Option.map_some]
  | none =>
    have supported : s.graph.Knows [why] := List.forall_mem_singleton.2 recorded
    let fault := Fault.undefinedVariable name (s.scopes.description s.currentScope)
    obtain ⟨s', told, notes, -⟩ := conj_done supported fault.message
    refine .inr ⟨.because fault s.graph.size, s', ?_, notes, ?_⟩
    · simp only [lookupVariable, Bind.bind, Action.currentScope, Action.ask, Scopes.get, found]
      rw [told]
      rfl
    · rw [meaning?, found, Option.map_none]

/-- Variables are read one after the other if all of their names mean something. -/
lemma lookupVariables_cases (known : s.KnowsVariables) (loc : Location) {why : ReasonId}
    (recorded : Nat.lt why s.graph.size) (names : List String) :
    (∃ infos s', lookupVariables loc why names s = .done infos s' ∧ s.Notes s' ∧
      names.mapM s.meaning? = some (infos.map Justified.value) ∧
      s'.graph.Knows (reasons infos)) ∨
    ∃ failure s', lookupVariables loc why names s = .failed failure s' ∧ s.Notes s' ∧
      names.mapM s.meaning? = none := by
  induction names generalizing s with
  | nil => exact .inl ⟨[], s, rfl, .refl s, rfl, nofun⟩
  | cons name rest ih =>
    simp only [List.mapM_cons, lookupVariables, Bind.bind]
    obtain ⟨info, s1, read, notes, means, fresh⟩ | ⟨failure, s1, fails, notes, means⟩ :=
      lookupVariable_cases known name loc recorded
    · have same : s1.meaning? = s.meaning? := funext notes.meaning?
      have others := ih (notes.knowsVariables known) (Nat.lt_of_lt_of_le recorded notes.graph)
      rw [same] at others
      obtain ⟨infos, s2, reads, notes', meanings, known'⟩ | ⟨failure, s2, fails, notes', none⟩ :=
        others
      · refine .inl ⟨info :: infos, s2, ?_, notes.trans notes', ?_, ?_⟩
        · simp only [read, reads]
          rfl
        · rw [means, meanings]
          rfl
        · exact List.forall_mem_cons.2 ⟨Nat.lt_of_lt_of_le fresh notes'.graph, known'⟩
      · refine .inr ⟨failure, s2, ?_, notes.trans notes', ?_⟩
        · simp only [read, fails]
        · rw [means, none]
          rfl
    · refine .inr ⟨failure, s1, ?_, notes, ?_⟩
      · simp only [fails]
      · rw [means]
        rfl

end Session

/-! ## Calls -/

/-- A call of a built-in method. -/
structure Call where
  receiver : Value
  method : String
  args : List Value

/-- The call that a statement makes which hands the method over in the session. -/
def Session.call? (s : Session) (method : String) (params : List String) : Option Call := do
  let receiver ← s.meaning? selfName
  let args ← params.mapM s.meaning?
  return ⟨receiver, method, args⟩

/-- In a sound session, what names mean is what there is. -/
lemma Session.Sound.meaning_in {s : Session} (sound : s.Sound) {name : String} {value : Value}
    (means : s.meaning? name = some value) : value.In s.census := by
  obtain ⟨stored, found, rfl⟩ := Option.map_eq_some_iff.1 means
  exact (Scopes.In.tryGet sound.known.scopes found).1

/-- In a sound session names mean values that the session knows. -/
lemma Session.Sound.meanings_in {s : Session} (sound : s.Sound) {names : List String}
    {values : List Value} (mean : names.mapM s.meaning? = some values) :
    ∀ value ∈ values, value.In s.census := by
  induction names generalizing values with
  | nil =>
    cases mean
    exact List.forall_mem_nil _
  | cons name rest ih =>
    rw [List.mapM_cons] at mean
    obtain ⟨value, means, remaining⟩ := Option.bind_eq_some_iff.1 mean
    obtain ⟨others, meanings, same⟩ := Option.bind_eq_some_iff.1 remaining
    cases same
    exact List.forall_mem_cons.2 ⟨sound.meaning_in means, ih meanings⟩

/-- In a sound session a call has a receiver and arguments that the session knows. -/
lemma Session.Sound.call_in {s : Session} (sound : s.Sound) {method : String}
    {params : List String} {call : Call} (called : s.call? method params = some call) :
    call.receiver.In s.census ∧ ∀ arg ∈ call.args, arg.In s.census := by
  obtain ⟨receiver, means, rest⟩ := Option.bind_eq_some_iff.1 called
  obtain ⟨args, mean, made⟩ := Option.bind_eq_some_iff.1 rest
  cases made
  exact ⟨sound.meaning_in means, sound.meanings_in mean⟩

/-- The call that a statement makes is one of its method. -/
lemma Session.call?_method {s : Session} {method : String} {params : List String} {call : Call}
    (called : s.call? method params = some call) : call.method = method := by
  obtain ⟨receiver, -, rest⟩ := Option.bind_eq_some_iff.1 called
  obtain ⟨args, -, made⟩ := Option.bind_eq_some_iff.1 rest
  cases made
  rfl

/-- The call that is made at an event. What the program fills a list with is appended to it. -/
def Event.call? : Event → Option Call
  | .moment (.executing (.invokeNative _ method params) _) now => now.call? method params
  | .moment .. => none
  | .filled list _ item _ _ => some ⟨.object list, "append", [item]⟩

section

variable {s t t' : Session} {method : String} {params : List String} {loc : Location}
  {why history : ReasonId} {inner : Inner} {i : ScopeId} {handle : Handle}
  {infos : List Justified} {object shown : String}

/-- What is left of a hand-over when it is known what is called. -/
def dispatch (inner : Inner) (this : Value) (handle : Option Handle) (method object shown : String)
    (loc : Location) (why history : ReasonId) (infos : List Justified) : Eval Flow :=
  match this, handle with
  | .object scope, some handle =>
    Session.handOver inner scope handle method object shown loc why history infos
  | _, _ => Action.fail (.because (.native object method "receiver has no native handle") history)

/-- A dispatch hands the method over to the state of the object, or fails if there is none. -/
lemma dispatch_cases (inner : Inner) (this : Value) (handle : Option Handle)
    (method object shown : String) (loc : Location) (why history : ReasonId)
    (infos : List Justified) :
    (∃ i old, this = .object i ∧ handle = some old ∧
      dispatch inner this handle method object shown loc why history infos =
        Session.handOver inner i old method object shown loc why history infos) ∨
    (∀ i old, this = .object i → handle ≠ some old) ∧
      ∃ failure, dispatch inner this handle method object shown loc why history infos =
        Action.fail failure := by
  cases this with
  | object i =>
    cases handle with
    | some old => exact .inl ⟨i, old, rfl, rfl, rfl⟩
    | none => exact .inr ⟨nofun, _, rfl⟩
  | _ => exact .inr ⟨nofun, _, rfl⟩

/-- A hand-over finds out what is called, and records it. -/
lemma invokeNative_opens (known : s.KnowsVariables) (recorded : Nat.lt why s.graph.size)
    (method : String) (params : List String) (loc : Location) :
    (∃ (this : Justified) (infos : List Justified) (history : ReasonId) (object shown : String)
        (t : Session), s.Notes t ∧
      s.call? method params = some ⟨this.value, method, infos.map Justified.value⟩ ∧
      t.graph.Knows (history :: reasons infos) ∧ ∀ inner,
        invokeNative inner method params loc why s =
          dispatch inner this.value (s.handle? this.value) method object shown loc why history infos
            t) ∨
    ∃ (failure : Failure) (t : Session), s.Notes t ∧ s.call? method params = none ∧ ∀ inner,
      invokeNative inner method params loc why s = .failed failure t := by
  -- The receiver is read first, then the arguments; what is read last decides how the hand-over is
  -- recorded. Each of these steps may fail, and then nothing is called.
  obtain ⟨this, s1, read, notes1, means, fresh⟩ | ⟨failure, s1, fails, notes1, means⟩ :=
    Session.lookupVariable_cases known selfName loc recorded
  · have recorded1 := Nat.lt_of_lt_of_le recorded notes1.graph
    have same : s1.meaning? = s.meaning? := funext notes1.meaning?
    have others := Session.lookupVariables_cases (notes1.knowsVariables known) loc recorded1 params
    rw [same] at others
    obtain ⟨infos, s2, reads, notes2, meanings, known2⟩ | ⟨failure, s2, fails, notes2, none⟩ :=
      others
    · have recorded2 := Nat.lt_of_lt_of_le recorded1 notes2.graph
      obtain ⟨shown, shows⟩ : ∃ shown, Action.renderAll (ε := Failure) infos s2 = .done shown s2 :=
        ⟨_, rfl⟩
      obtain ⟨s3, given, notes3, fresh3⟩ := Session.full_done
        (List.forall_mem_cons.2 ⟨recorded2, known2⟩ : s2.graph.Knows (why :: reasons infos))
        s!"{method} arguments" s!"({shown})" loc
      obtain ⟨object, called⟩ :
          ∃ object, Action.render (ε := Failure) this.value s3 = .done object s3 := ⟨_, rfl⟩
      have known3 : s3.graph.Knows [why, this.why, s2.graph.size] := by
        refine List.forall_mem_cons.2 ⟨Nat.lt_of_lt_of_le recorded2 notes3.graph, ?_⟩
        refine List.forall_mem_cons.2 ⟨?_, List.forall_mem_singleton.2 fresh3⟩
        exact Nat.lt_of_lt_of_le fresh (Nat.le_trans notes2.graph notes3.graph)
      obtain ⟨s4, told, notes4, fresh4⟩ :=
        Session.conj_done known3 s!"Called (unmanaged) {object}.{method}({shown})"
      have notes := ((notes1.trans notes2).trans notes3).trans notes4
      refine .inl ⟨this, infos, s3.graph.size, object, shown, s4, notes, ?_, ?_, fun inner => ?_⟩
      · simp only [Session.call?, means, meanings]
        rfl
      · exact List.forall_mem_cons.2 ⟨fresh4, notes4.knows (notes3.knows known2)⟩
      · rw [invokeNative, Action.bind_done read, Action.bind_done reads, Action.bind_done shows,
          Action.bind_done given, Action.bind_done called, Action.bind_done told, ← notes.handle?]
        rfl
    · refine .inr ⟨failure, s2, notes1.trans notes2, ?_, fun inner => ?_⟩
      · simp only [Session.call?, means, none]
        rfl
      · rw [invokeNative, Action.bind_done read, Action.bind_failed fails]
  · refine .inr ⟨failure, s1, notes1, ?_, fun inner => ?_⟩
    · simp only [Session.call?, means]
      rfl
    · rw [invokeNative, Action.bind_failed fails]

/-- How a method ends that gives a value, or fails if there is none to give: the value rests on a
reason that has been recorded. -/
inductive Session.Serves (s : Session) (P : Scopes → Prop) :
    Option Value → Outcome NativeFault Justified → Prop where
  | gives {result s'} : s.graph.size ≤ s'.graph.size → Nat.lt result.why s'.graph.size →
    P s'.scopes → Serves s P (some result.value) (.done result s')
  | fails {fault s'} : P s'.scopes → Serves s P none (.failed fault s')

/-- How the hand-over ends to a method that gives a value, or fails if there is none to give. -/
inductive Outcome.Answers (P : Scopes → Prop) : Option Value → Outcome Failure Flow → Prop where
  | returned {result s'} : P s'.scopes → Answers P (some result.value) (.done (.returned result) s')
  | failed {failure s'} : P s'.scopes → Answers P none (.failed failure s')

variable {P Q : Scopes → Prop} {value : Option Value}

/-- What holds of the scopes that a method leaves may be weakened. -/
lemma Session.Serves.mono {o : Outcome NativeFault Justified} (h : s.Serves P value o)
    (weaker : ∀ scopes, P scopes → Q scopes) : s.Serves Q value o := by
  cases h with
  | gives grows recorded holds => exact .gives grows recorded (weaker _ holds)
  | fails holds => exact .fails (weaker _ holds)

/-- A method that serves leaves a session behind. -/
lemma Session.Serves.leaves {o : Outcome NativeFault Justified} (h : s.Serves P value o) :
    ∃ s', o.session? = some s' ∧ P s'.scopes := by
  cases h with
  | gives _ _ holds | fails holds => exact ⟨_, rfl, holds⟩

/-- A hand-over leaves a session behind. -/
lemma Outcome.Answers.leaves {o : Outcome Failure Flow} (h : o.Answers P value) :
    ∃ s', o.session? = some s' ∧ P s'.scopes := by
  cases h with
  | returned holds | failed holds => exact ⟨_, rfl, holds⟩

/-- A hand-over to a method that gives a value returns it. -/
lemma Outcome.Answers.returns {o : Outcome Failure Flow} {given : Value}
    (h : o.Answers P (some given)) :
    ∃ result s', o = .done (.returned result) s' ∧ result.value = given ∧ P s'.scopes := by
  generalize same : some given = value at h
  cases h with
  | returned holds => exact ⟨_, _, rfl, (Option.some.inj same).symm, holds⟩
  | failed => cases same

/-- What a method gives is what comes of handing over to it, for a new reason. -/
lemma handOver_done {result : Justified} (known : t.graph.Knows [history, why])
    (done : Native.invoke inner i handle method history infos t = .done result t')
    (grows : t.graph.size ≤ t'.graph.size) (fresh : Nat.lt result.why t'.graph.size) :
    ∃ forwarded s', Session.handOver inner i handle method object shown loc why history infos t =
        .done (.returned ⟨result.value, forwarded⟩) s' ∧ t'.Notes s' ∧
      Nat.lt forwarded s'.graph.size := by
  obtain ⟨hidden, recorded⟩ := List.forall_mem_cons.1 known
  have gives : (Native.invoke inner i handle method history infos).toEval handle.builtin.name
      method history t = .done result t' := by
    simp only [Native.toEval, Action.mapError, done]
  obtain ⟨s1, hides, notes1⟩ := Session.hide_done (s := t') (Nat.lt_of_lt_of_le hidden grows)
  have known1 : s1.graph.Knows [why, result.why] := by
    refine notes1.knows (List.forall_mem_cons.2 ⟨?_, List.forall_mem_singleton.2 fresh⟩)
    exact Nat.lt_of_lt_of_le (recorded _ List.mem_cons_self) grows
  obtain ⟨rendered, renders⟩ :
      ∃ text, Action.render (ε := Failure) result.value s1 = .done text s1 := ⟨_, rfl⟩
  obtain ⟨s2, told, notes2, fresh2⟩ := Session.full_done known1
    s!"unmanaged {object}.{method}({shown})" rendered loc
  obtain ⟨s3, hides', notes3⟩ := Session.hide_done fresh2
  refine ⟨s1.graph.size, s3, ?_, (notes1.trans notes2).trans notes3,
    Nat.lt_of_lt_of_le fresh2 notes3.graph⟩
  rw [Session.handOver, Action.bind_done gives, Action.bind_done hides, Action.bind_done renders,
    Action.bind_done told, Action.bind_done hides']
  rfl

/-- What a method fails with is what comes of handing over to it. -/
lemma handOver_failed {fault : NativeFault}
    (fails : Native.invoke inner i handle method history infos t = .failed fault t') :
    Session.handOver inner i handle method object shown loc why history infos t =
      .failed ((fault.toFailure handle.builtin.name method).orReason history) t' := by
  have failed : (Native.invoke inner i handle method history infos).toEval handle.builtin.name
      method history t =
        .failed ((fault.toFailure handle.builtin.name method).orReason history) t' := by
    simp only [Native.toEval, Action.mapError, fails]
  rw [Session.handOver, Action.bind_failed failed]

/-- A hand-over answers what the method gives. -/
lemma handOver_answers (known : t.graph.Knows [history, why])
    (serves : t.Serves P value (Native.invoke inner i handle method history infos t)) :
    (Session.handOver inner i handle method object shown loc why history infos t).Answers P
      value := by
  generalize ends : Native.invoke inner i handle method history infos t = o at serves
  cases serves with
  | @gives result t' grows fresh holds =>
    obtain ⟨forwarded, s', done, notes, -⟩ := handOver_done known ends grows fresh
    rw [done]
    refine @Outcome.Answers.returned _ ⟨result.value, forwarded⟩ s' ?_
    rwa [notes.scopes]
  | fails holds =>
    rw [handOver_failed ends]
    exact .failed holds

/-- A call of a method of an object with state is answered as the state serves it. -/
lemma invokeNative_answers {args : List Value} (known : s.KnowsVariables)
    (recorded : Nat.lt why s.graph.size)
    (called : s.call? method params = some ⟨.object i, method, args⟩)
    (state : s.handle? (.object i) = some handle)
    (serves : ∀ t history infos, s.Notes t → infos.map Justified.value = args →
      t.graph.Knows (history :: reasons infos) →
      t.Serves P value (Native.invoke inner i handle method history infos t)) :
    (invokeNative inner method params loc why s).Answers P value := by
  obtain ⟨this, infos, history, object, shown, t, notes, made, known', ends⟩ |
      ⟨failure, t, notes, none, -⟩ := invokeNative_opens known recorded method params loc
  · obtain ⟨receives, rfl⟩ : this.value = .object i ∧ infos.map Justified.value = args := by
      rw [called, Option.some.injEq, Call.mk.injEq] at made
      exact ⟨made.1.symm, made.2.2.symm⟩
    rw [ends, receives, state]
    refine handOver_answers ?_ (serves t history infos notes rfl known')
    exact List.forall_mem_cons.2 ⟨known' _ List.mem_cons_self,
      List.forall_mem_singleton.2 (Nat.lt_of_lt_of_le recorded notes.graph)⟩
  · rw [called] at none
    cases none

end

/-! ## Objects that methods make -/

/-- Work of a program inside that of a method. -/
lemma Action.lift_done {α : Type} {a : Eval α} {x : α} {s s' : Session} (done : a s = .done x s') :
    (liftM a : Native α) s = .done x s' := by
  have runs : (liftM a : Native α) s = a.mapError .failure s := rfl
  rw [runs, Action.mapError, done]

namespace Session

/-- The name is that of a built-in class, and no program has given it to something else. -/
def Denotes (s : Session) (name : String) (builtin : Builtin) : Prop :=
  ∃ id, s.lookupClass? name = some id ∧ (s.classAt id).builtin = some builtin

/-- A new object with a state has been made, and the other scopes have been left alone. -/
structure Makes (s : Session) (handle : Handle) (made : Justified) (s' : Session) : Prop where
  value : made.value = .object s.scopes.size
  state : s'.handle? made.value = some handle
  others : ∀ i : Nat, i ≠ s.scopes.size → s'.scopes.scopeAt i = s.scopes.scopeAt i
  graph : s.graph.size ≤ s'.graph.size
  recorded : Nat.lt made.why s'.graph.size

variable {s s' : Session} {className : String} {builtin : Builtin} {args : List Justified}
  {handle : Handle} {why : ReasonId}

/-- Recording reasons keeps a session in order. -/
lemma Notes.inOrder (h : s.Notes s') (inOrder : s.InOrder) : s'.InOrder := by
  rw [h.same]
  exact inOrder.sameStore ⟨rfl, rfl, rfl⟩ inOrder.entered inOrder.frames

/-- Recording reasons takes no name from a built-in class. -/
lemma Notes.denotes (h : s.Notes s') (denotes : s.Denotes className builtin) :
    s'.Denotes className builtin := by
  rw [h.same]
  exact denotes

/-- An object has been made on top of what there was. -/
lemma withObject_adds (className : String) (id : ClassId) (handle : Option Handle)
    {graph : Graph} (bindings : Bindings) (grows : s.graph.size ≤ graph.size) :
    s.Adds (s.withObject className id handle graph bindings) where
  graph := grows
  scopes := Nat.le.intro (Scopes.size_push ..).symm
  old _ lt := (scopeAt_withScope ..).trans (if_neg (Nat.ne_of_lt lt))
  classes := rfl
  functions := rfl

/-- An object that is about to get to its constructor has been made on top of what there was. -/
lemma furnished_adds (className : String) (id : ClassId) (handle : Option Handle) :
    s.Adds (s.furnished className id handle) :=
  withObject_adds _ _ _ _ (furnished_grows s className id handle).size

/-- The session in which an object of a built-in class is there, with its state and with its class
among its properties. -/
def withBuiltin (s : Session) (className : String) (id : ClassId) (handle : Handle) : Session :=
  s.withObject className id (some handle)
    (s.graph.push (.text "This is the class of the object") [] none)
    [(classField, ⟨.classRef id, s.graph.size⟩)]

/-- Making an object of a built-in class only adds a reason. -/
lemma withBuiltin_grows (className : String) (id : ClassId) (handle : Handle) :
    s.graph.Grows (s.withBuiltin className id handle).graph := .push ..

/-- Making an object of a built-in class only adds an object. -/
lemma withBuiltin_adds (className : String) (id : ClassId) (handle : Handle) :
    s.Adds (s.withBuiltin className id handle) :=
  withObject_adds _ _ _ _ (withBuiltin_grows className id handle).size

/-- When an object has been made, this is what is recorded. -/
lemma describeNew_records (object : ScopeId) (className : String)
    (known : s.graph.Knows (why :: reasons args)) :
    ∃ s', s.Adduces (.conj s!"newObject {className}({s.renderAll args})") (why :: reasons args) s' ∧
      describeNew object className args why s = .done ⟨.object object, s.graph.size⟩ s' := by
  have renders : Action.renderAll (ε := Failure) args s = .done (s.renderAll args) s := rfl
  obtain ⟨s', told, records⟩ := @record_records s
    (.conj s!"newObject {className}({s.renderAll args})") _ known trivial none
  have told : Action.conj s!"newObject {className}({s.renderAll args})" (why :: reasons args) s =
      .done s.graph.size s' := told
  refine ⟨s', records, ?_⟩
  rw [describeNew, Action.bind_done renders, Action.bind_done told]
  rfl

/-- An object of a built-in class is made of arguments that make its state. -/
lemma newObject_records {id : ClassId} (found : s.lookupClass? className = some id)
    (isBuiltin : (s.classAt id).builtin = some builtin)
    (native : s.nativeBuiltin? id = some builtin)
    (makes : Native.construct builtin args = Action.ofExcept (.ok handle))
    (ofClass : handle.builtin = builtin) (known : s.graph.Knows (why :: reasons args))
    (inner : Inner) :
    ∃ s', Because.newObject inner className args why s =
        .done ⟨.object s.scopes.size, (s.withBuiltin className id handle).graph.size⟩ s' ∧
      (s.withBuiltin className id handle).Adduces
        (.conj s!"newObject {className}({(s.withBuiltin className id handle).renderAll args})")
        (why :: reasons args) s' := by
  have takes : s.Takes id args (some handle) := .backed native ofClass makes
  let object := s.withBuiltin className id handle
  have tags : tagClass s.scopes.size id (s.withObject className id (some handle) s.graph []) =
      .done () object := by
    rw [tagClass_withObject, Regime.declare_withObject]
    rfl
  obtain ⟨s', records, describes⟩ := describeNew_records s.scopes.size className
    ((withBuiltin_adds className id handle).knows known)
  refine ⟨s', ?_, records⟩
  rw [Regime.newObject_eq args found, Action.bind_done (takes.attached className why)]
  change (if (s.classAt id).builtin.isSome then
      tagClass s.scopes.size id >>= fun _ => describeNew s.scopes.size className args why
    else constructUser inner s.scopes.size id args (s.nativeBuiltin? id).isSome why >>= fun _ =>
      describeNew s.scopes.size className args why)
        (s.withObject className id (some handle) s.graph []) = _
  rw [isBuiltin, Option.isSome_some, if_pos rfl, Action.bind_done tags]
  exact describes

/-- When an object of a built-in class is made, nothing else happens. -/
lemma newObject_adds {id : ClassId} (found : s.lookupClass? className = some id)
    (isBuiltin : (s.classAt id).builtin = some builtin)
    (native : s.nativeBuiltin? id = some builtin)
    (makes : Native.construct builtin args = Action.ofExcept (.ok handle))
    (ofClass : handle.builtin = builtin) (known : s.graph.Knows (why :: reasons args))
    (inner : Inner) :
    ∃ made s', Because.newObject inner className args why s = .done made s' ∧
      s.Makes handle made s' ∧ s'.classOf? made.value = some id ∧ s.Adds s' ∧ s.Quiet s' := by
  let object := s.withBuiltin className id handle
  have adds : s.Adds object := withBuiltin_adds className id handle
  obtain ⟨s', done, records⟩ :=
    newObject_records found isBuiltin native makes ofClass known inner
  have notes : object.Notes s' := records.toNotes
  have others (i : Nat) (other : i ≠ s.scopes.size) :
      s'.scopes.scopeAt i = s.scopes.scopeAt i := by
    rw [notes.scopes]
    exact (scopeAt_withScope ..).trans (if_neg other)
  have tagged : object.tag? (.object s.scopes.size) = some ⟨s.nextObject, id, some handle⟩ := by
    simp only [tag?, Value.scope?, Option.bind_some, object, withBuiltin,
      Regime.scopeAt_withObject]
  have tagged' := (Adds.of_notes notes).tag? tagged
  refine ⟨_, s', done, ⟨rfl, ?_, others, Nat.le_trans adds.graph notes.graph, records.fresh⟩, ?_,
    adds.trans (.of_notes notes), ?_⟩
  · rw [Session.handle?, tagged']
    rfl
  · rw [Session.classOf?, tagged']
    rfl
  · rw [notes.same]
    exact ⟨⟨rfl, rfl⟩, rfl⟩

/-- The making of the object may be hidden. -/
lemma newHiddenObject_adds {id : ClassId} (found : s.lookupClass? className = some id)
    (isBuiltin : (s.classAt id).builtin = some builtin)
    (native : s.nativeBuiltin? id = some builtin)
    (makes : Native.construct builtin args = Action.ofExcept (.ok handle))
    (ofClass : handle.builtin = builtin) (known : s.graph.Knows (why :: reasons args))
    (inner : Inner) :
    ∃ made s', Because.newHiddenObject inner className args why s = .done made s' ∧
      s.Makes handle made s' ∧ s'.classOf? made.value = some id ∧ s.Adds s' ∧ s.Quiet s' := by
  obtain ⟨made, s1, builds, makes, isClass, adds, quiet⟩ :=
    newObject_adds found isBuiltin native makes ofClass known inner
  obtain ⟨s2, hides, notes⟩ := hide_done makes.recorded
  have later := Adds.of_notes notes
  refine ⟨made, s2, ?_, ⟨makes.value, later.handle? makes.state, fun i other => ?_, ?_, ?_⟩,
    later.classOf? isClass, adds.trans later, quiet.trans (.of_notes notes)⟩
  · rw [Because.newHiddenObject, Action.bind_done builds, Action.bind_done hides]
    rfl
  · rw [notes.scopes, makes.others i other]
  · exact Nat.le_trans makes.graph notes.graph
  · exact Nat.lt_of_lt_of_le makes.recorded notes.graph

/-- An object of a built-in class whose reason is hidden can be made, if its name denotes the class
and its state can be made. -/
lemma newHiddenObject_makes (inOrder : s.InOrder) (denotes : s.Denotes className builtin)
    (makes : Native.construct builtin args = Action.ofExcept (.ok handle))
    (ofClass : handle.builtin = builtin) (known : s.graph.Knows (why :: reasons args))
    (inner : Inner) :
    ∃ made s', Because.newHiddenObject inner className args why s = .done made s' ∧
      s.Makes handle made s' := by
  obtain ⟨id, found, isBuiltin⟩ := denotes
  have lt := inOrder.lookupClass found
  have native : s.nativeBuiltin? id = some builtin := by
    rw [nativeBuiltin?, (inOrder.classes id lt).native, isBuiltin, Option.isSome_some, if_pos rfl,
      Option.bind_some, isBuiltin]
  obtain ⟨made, s', done, makes, -⟩ :=
    newHiddenObject_adds found isBuiltin native makes ofClass known inner
  exact ⟨made, s', done, makes⟩

/-- A method that records why and then makes an object gives that object. -/
lemma made_serves {supporters : List ReasonId} (inOrder : s.InOrder)
    (denotes : s.Denotes className builtin) (value : Value) (state : ReasonId → Handle)
    (makes : ∀ given, Native.construct builtin [⟨value, given⟩] =
      Action.ofExcept (.ok (state given)))
    (ofClass : ∀ given, (state given).builtin = builtin) (known : s.graph.Knows supporters)
    (recorded : Nat.lt why s.graph.size) (message : String) (inner : Inner) :
    s.Serves
      (fun scopes =>
        (∃ given, ({ s with scopes } : Session).handle? (.object s.scopes.size) =
          some (state given)) ∧
        ∀ i : Nat, i ≠ s.scopes.size → scopes.scopeAt i = s.scopes.scopeAt i)
      (some (.object s.scopes.size))
      (((liftM (Action.conj message supporters) : Native ReasonId) >>= fun given =>
        (liftM (Because.newHiddenObject inner className [⟨value, given⟩] why) : Native Justified))
          s) := by
  obtain ⟨s1, told, notes, fresh⟩ := conj_done known message
  have supported : s1.graph.Knows (why :: reasons [⟨value, s.graph.size⟩]) :=
    List.forall_mem_cons.2
      ⟨Nat.lt_of_lt_of_le recorded notes.graph, List.forall_mem_singleton.2 fresh⟩
  obtain ⟨made, s2, done, makes⟩ := newHiddenObject_makes (notes.inOrder inOrder)
    (notes.denotes denotes) (makes s.graph.size) (ofClass _) supported inner
  have size : s1.scopes.size = s.scopes.size := congrArg Scopes.size notes.scopes
  rw [Action.bind_done (Action.lift_done told), Action.lift_done done, ← size, ← makes.value]
  refine .gives (Nat.le_trans notes.graph makes.graph) makes.recorded
    ⟨⟨s.graph.size, makes.state⟩, fun i other => ?_⟩
  rw [makes.others i other, notes.scopes]

end Session

end Because
