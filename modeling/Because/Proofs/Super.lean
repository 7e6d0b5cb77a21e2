import Because.Proofs.Evaluation
import Because.Proofs.Probes

/-!
# Calls of `super`

A call of `super` goes to the parent of the class that defines the running method, whatever object
it is made on and whoever has called the method. The class that defines the running method is read
from the newest call in progress, which is that of the running method at every moment of its body.
As the methods in the table of a class belong to it or to a class above it, a method that is reached
by `super` belongs to a class further up; so calls that follow each other by `super` alone come to
an end.
-/

namespace Because

open Session Comparison

/-! ## The running method -/

/-- While the body of a function runs, the calls in progress are those at its start. -/
def Regime.inBody {s : Session} (inOrder : s.InOrder) (calls : CallStack) : Regime where
  names _ := True
  holds now := s.Grows (fun _ _ => True) now ∧ now.calls = calls
  ready _ _ _ := True
  lasts _ _ holds later :=
    ⟨holds.1.trans inOrder.implScope_lt later.grows fun _ _ _ _ => trivial,
      later.same.calls.trans holds.2⟩
  block _ _ holds :=
    ⟨holds.1.trans inOrder.implScope_lt (inBlock_grows (o := fun _ _ => True) _ _)
      fun _ _ _ _ => trivial, holds.2⟩
  receives _ _ _ _ := trivial

/-- At every moment of a body the newest call in progress is its own. -/
lemma body_keeps_calls {s : Session} (h : s.InOrder) {steps f : Nat} {args : List Justified}
    (lt : f < s.functions.size) (fit : Justified.AllFit s args) (why : ReasonId) :
    s.InBody steps (callFunction · f args why) fun _ now =>
      now.InOrder ∧ s.Grows (fun _ _ => True) now ∧
        now.calls = s.calls.enter (s.functionAt f).frame := by
  have supers : (Regime.inBody h (s.calls.enter (s.functionAt f).frame)).Supers :=
    fun _ _ => trivial
  refine Regime.inBody_call supers h ?_ lt fit fun sees => ⟨sees.good.orderly, sees.good.holds⟩
  exact fun now _ _ begun => ⟨begun.grows.widen fun _ _ => False.elim, begun.calls⟩

/-! ## The called method -/

/-- What is called, if anything, is what a call of `super` in the session calls. -/
def Session.MakesSuperCall (s : Session) (method : String) (moment : Moment) (now : Session) :
    Prop :=
  ∀ f infos context, moment = .calling f infos context → ∃ receiver rest,
    infos = receiver :: rest ∧
      (Regime.plain fun _ => True).SuperCalls s now method f receiver rest

/-- All that a call of `super` calls is the method that it looks up. -/
lemma directly_super {s : Session} (h : s.InOrder) (steps : Nat) (loc : Location)
    (method : String) (args : List Expr) (why : ReasonId) :
    s.Directly steps (evalExpr · (.superCall loc method args) why) (s.MakesSuperCall method) := by
  have inside : (Inner.within steps).Regular (Regime.plain fun _ => True) :=
    Regime.plain_within steps
  have evaluates : ((Inner.within steps).watched (s.MakesSuperCall method)
      (.of idleFault)).Evaluates (Regime.plain fun _ => True) := by
    constructor
    intro now expr why good
    refine (inside.eval expr why good).watchEnds ?_ (fun _ _ => ?_) (fun _ _ => ?_)
    · rintro _ _ _ ⟨⟩
    · rintro _ _ _ ⟨⟩
    · rintro _ _ _ ⟨⟩
  refine (steady_evalExpr _ why).directly (Regime.Leads.unheard
    (Regime.evalSuper_leads evaluates h.good _ loc method args fun context made => ?_))
  refine (inside.call context made.good made.made made.fit trivial).watchEnds ?_ (fun _ _ => ?_)
    (fun _ _ => ?_)
  · rintro _ _ _ ⟨⟩
    exact ⟨_, _, rfl, made⟩
  · rintro _ _ _ ⟨⟩
  · rintro _ _ _ ⟨⟩

namespace Session

variable {s now : Session}

/-- The method that a call of `super` calls in a method which the class `owner` defines. It is in
the table of the parent, and belongs to a class properly above. -/
structure SuperTarget (s : Session) (owner : ClassId) (method : String) (f : Nat) : Prop where
  made : f < s.functions.size
  served : ∃ parent, (s.classAt owner).parent = some parent ∧
    (s.classAt parent).methods.get? method = some f
  climbs : ∃ above ∈ s.lineage owner, above ≠ owner ∧ (s.functionAt f).owner = some above

/-- What has been the table of the parent when `super` was called is so when the method is
called. -/
lemma superTarget_of_calls (h : s.InOrder) {method : String} {f : Nat} {receiver : Justified}
    {args : List Justified}
    (calls : (Regime.plain fun _ => True).SuperCalls s now method f receiver args) :
    ∃ owner, s.calls.owner? = some owner ∧ s.SuperTarget owner method f := by
  obtain ⟨owner, parent, runs, above, found⟩ := calls.serves
  have lt := h.owner_lt runs
  have older := h.rooted.classes owner parent above
  have ltParent := Nat.lt_trans older lt
  -- Arguments may bind global names only, and these are no methods.
  have shut (name : String) :
      ¬ places (fun _ => True) [] (s.classAt parent).implScope name := by
    rintro (global | ⟨none, -⟩)
    · exact h.global.noImpl ⟨parent, ltParent, global⟩
    · exact List.not_mem_nil none
  have same : (now.classAt parent).methods = (s.classAt parent).methods :=
    calls.later.grows.tables parent ltParent shut
  rw [same] at found
  obtain ⟨made, definer, mem, owns⟩ := h.method_owner ltParent found
  refine ⟨owner, runs, made, ⟨parent, above, found⟩, definer, ?_, ?_, owns⟩
  · exact h.rooted.mem_lineage_of_parent above mem
  · exact Nat.ne_of_lt (Nat.lt_of_le_of_lt (h.rooted.le_of_mem_lineage mem) older)

end Session

/-! ## Chains of calls of `super` -/

namespace Session

/-- The method of the one frame belongs to a class properly above that of the other. -/
def Ascends (s : Session) (upper lower : Frame) : Prop :=
  ∃ above owner, upper.owner = some above ∧ lower.owner = some owner ∧
    above ∈ s.lineage owner ∧ above ≠ owner

/-- How far `super` may reach from a frame: the number of classes that are the class of its method
or lie above it. -/
def reach (s : Session) (frame : Frame) : Nat :=
  match frame.owner with
  | some owner => (s.lineage owner).length
  | none => 1

/-- Calls in progress, the newest first, of which each but the oldest has been entered by a call of
`super` which the body of the one before has made itself. -/
inductive Climb : Session → List Frame → Prop where
  | base {s frame} : s.InOrder → s.calls.frames.head? = some frame → Climb s [frame]
  | step {s later now frames steps steps' loc method args why f infos context moment} :
    Climb s frames →
    s.DirectlyAt steps (evalExpr · (.superCall loc method args) why) (.calling f infos context)
      later →
    later.InBodyAt steps' (Because.callFunction · f infos context) moment now →
    Climb now ((later.functionAt f).frame :: frames)

end Session

namespace Session

variable {s now : Session}

/-- A class properly above another one has fewer classes above it. -/
lemma Rooted.lineage_length_lt (h : s.Rooted) {above id : ClassId} (mem : above ∈ s.lineage id)
    (ne : above ≠ id) : (s.lineage above).length < (s.lineage id).length := by
  induction id using h.class_induction with
  | step id ih =>
    obtain rfl | ⟨parent, e, mem⟩ := h.mem_lineage mem
    · exact absurd rfl ne
    · rw [h.lineage_eq id, e, List.length_cons]
      obtain rfl | ne := eq_or_ne above parent
      · exact Nat.lt_succ_self _
      · exact Nat.lt_succ_of_lt (ih parent e mem ne)

/-- Every frame reaches at least itself. -/
lemma reach_pos (h : s.Rooted) (frame : Frame) : 0 < s.reach frame := by
  unfold reach
  split
  · exact List.length_pos_of_mem (h.mem_lineage_self _)
  · exact Nat.one_pos

/-- The upper of two frames reaches less far. -/
lemma Ascends.reach_lt (h : s.Rooted) {upper lower : Frame} (ascends : s.Ascends upper lower) :
    s.reach upper < s.reach lower := by
  obtain ⟨above, owner, owns, owns', mem, ne⟩ := ascends
  rw [reach, reach, owns, owns']
  exact h.lineage_length_lt mem ne

/-- What is above something above is above. -/
lemma Ascends.trans (h : s.Rooted) {upper middle lower : Frame} (first : s.Ascends upper middle)
    (second : s.Ascends middle lower) : s.Ascends upper lower := by
  have shorter := Nat.lt_trans (first.reach_lt h) (second.reach_lt h)
  obtain ⟨above, owner, upperOwns, middleOwns, mem, -⟩ := first
  obtain ⟨_, owner', middleOwns', lowerOwns, mem', -⟩ := second
  cases middleOwns.symm.trans middleOwns'
  refine ⟨above, owner', upperOwns, lowerOwns, h.mem_lineage_trans mem mem', ?_⟩
  rintro rfl
  rw [reach, reach, upperOwns, lowerOwns] at shorter
  exact Nat.lt_irrefl _ shorter

/-! Later on, calls in progress are what they have been to each other. -/

section

variable {o : Places} (h : s.InOrder) (h' : now.InOrder) (grows : s.Grows o now)

include h h' grows

/-- The classes above that of a call in progress stay the same. -/
lemma lineage_of_frame {frame : Frame} (mem : frame ∈ s.calls.frames) {owner : ClassId}
    (owns : frame.owner = some owner) : now.lineage owner = s.lineage owner :=
  grows.lineage h.rooted h'.rooted (h.frames frame mem owner owns)

/-- Of calls in progress, what is above goes on to be above. -/
lemma Ascends.later {upper lower : Frame} (ascends : s.Ascends upper lower)
    (mem : lower ∈ s.calls.frames) : now.Ascends upper lower := by
  obtain ⟨above, owner, upperOwns, lowerOwns, lies, ne⟩ := ascends
  refine ⟨above, owner, upperOwns, lowerOwns, ?_, ne⟩
  rwa [lineage_of_frame h h' grows mem lowerOwns]

/-- Calls in progress reach as far as before. -/
lemma reach_grows {frame : Frame} (mem : frame ∈ s.calls.frames) :
    now.reach frame = s.reach frame := by
  unfold reach
  cases owns : frame.owner with
  | none => rfl
  | some owner => exact congrArg List.length (lineage_of_frame h h' grows mem owns)

end

/-- What a chain of calls of `super` is like: the classes ascend, and the longer the chain is, the
less far `super` may still reach. -/
structure Climbing (s : Session) (newest : Frame) (rest : List Frame) : Prop where
  inOrder : s.InOrder
  held : newest :: rest <+: s.calls.frames
  ascends : (newest :: rest).Pairwise s.Ascends
  bounded : ∀ oldest ∈ (newest :: rest).getLast?, rest.length + s.reach newest ≤ s.reach oldest

/-- A method that `super` calls in the body of the newest method of a chain makes it longer. -/
lemma Climbing.next {later : Session} {newest : Frame} {rest : List Frame} {method : String}
    {f : Nat} {receiver : Justified} {args : List Justified} (h : s.Climbing newest rest)
    (calls : (Regime.plain fun _ => True).SuperCalls s later method f receiver args)
    (inOrder : now.InOrder) (grows : later.Grows (fun _ _ => True) now)
    (entered : now.calls = later.calls.enter (later.functionAt f).frame) :
    now.Climbing (later.functionAt f).frame (newest :: rest) := by
  obtain ⟨owner, runs, target⟩ := superTarget_of_calls h.inOrder calls
  obtain ⟨above, mem, ne, owns⟩ := target.climbs
  -- Between the look-up of the method and its body only reasons and arguments come about, so that
  -- the frame that is entered is that of the function that was found.
  have same := calls.later.grows.functionAt f target.made
  have grows : s.Grows (fun _ _ => True) now :=
    (calls.later.grows.widen fun _ _ _ => trivial).trans h.inOrder.implScope_lt grows
      fun _ _ _ _ => trivial
  rw [calls.later.same.calls, same] at entered
  rw [same]
  have old : ∀ frame ∈ newest :: rest, frame ∈ s.calls.frames := h.held.subset
  have newestOwns : newest.owner = some owner := by
    obtain ⟨others, eq⟩ := h.held
    rw [CallStack.owner?, ← eq] at runs
    exact runs
  have first : s.Ascends (s.functionAt f).frame newest := ⟨above, owner, owns, newestOwns, mem, ne⟩
  -- It is enough to be above the newest frame: that one is above all the others.
  have firsts : ∀ lower ∈ newest :: rest, s.Ascends (s.functionAt f).frame lower := by
    refine List.forall_mem_cons.2 ⟨first, fun lower mem => ?_⟩
    exact first.trans h.inOrder.rooted (List.rel_of_pairwise_cons h.ascends mem)
  refine ⟨inOrder, ?_, ?_, ?_⟩
  · rw [entered]
    exact List.prefix_cons_inj _ |>.2 h.held
  · refine List.pairwise_cons.2 ⟨fun lower mem => ?_, ?_⟩
    · exact (firsts lower mem).later h.inOrder inOrder grows (old lower mem)
    · refine h.ascends.imp_of_mem fun _ mem ascends => ?_
      exact ascends.later h.inOrder inOrder grows (old _ mem)
  · intro oldest last
    rw [List.getLast?_cons_cons] at last
    have oldestMem := old oldest (List.mem_of_getLast? last)
    have shorter := (firsts newest List.mem_cons_self).later h.inOrder inOrder grows
      (old newest List.mem_cons_self) |>.reach_lt inOrder.rooted
    rw [reach_grows h.inOrder inOrder grows (old newest List.mem_cons_self)] at shorter
    rw [reach_grows h.inOrder inOrder grows oldestMem, List.length_cons]
    have bounded := h.bounded oldest last
    omega

end Session

/-- Every chain of calls of `super` ascends. -/
lemma climbing_of_climb {s : Session} {frames : List Frame} (climb : s.Climb frames) :
    ∃ newest rest, frames = newest :: rest ∧ s.Climbing newest rest := by
  induction climb with
  | @base s frame inOrder first =>
    refine ⟨frame, [], rfl, inOrder, ?_, List.pairwise_singleton .., ?_⟩
    · obtain ⟨others, eq⟩ := List.head?_eq_some_iff.1 first
      exact ⟨others, eq.symm⟩
    · rintro _ ⟨⟩
      exact Nat.le_of_eq (Nat.zero_add _)
  | @step s later now _ _ _ loc method args why f infos context moment _ called body ih =>
    obtain ⟨newest, rest, rfl, climbing⟩ := ih
    obtain ⟨receiver, others, rfl, calls⟩ := (steady_evalExpr _ why).of_directlyAt
      (directly_super climbing.inOrder _ loc method args why) called f infos context rfl
    obtain ⟨inOrder, grows, entered⟩ := (steady_callFunction f _ context).of_inBodyAt
      (body_keeps_calls calls.good.orderly calls.made calls.fit context) body
    exact ⟨_, _, rfl, climbing.next calls inOrder grows entered⟩

/-! ## Calls of `super` that are refused -/

section

variable {s : Session} {why : ReasonId} {method : String}

/-- Where `self` is bound, it is bound for a reason that has been recorded. -/
lemma Session.Sound.knowsSelf (h : s.Sound) (recorded : s.census.reason why)
    (bound : (s.scopes.tryGet s.currentScope selfName).isSome) :
    ∃ stored, s.scopes.tryGet s.currentScope selfName = some stored ∧
      s.graph.Knows [why, stored.why] := by
  obtain ⟨stored, bound⟩ := Option.isSome_iff_exists.1 bound
  exact ⟨stored, bound, List.forall_mem_cons.2
    ⟨recorded, List.forall_mem_singleton.2 (h.knowsVariables selfName stored bound)⟩⟩

/-- If no class defines the running method, or this class has no parent, nothing is called. -/
lemma dispatchSuper_refused
    (alone : ∀ owner, s.calls.owner? = some owner → (s.classAt owner).parent = none) :
    ∃ place, dispatchSuper method why s =
      .failed (.because (.undefinedFunction method place) why) s := by
  simp only [dispatchSuper, Bind.bind, Action.ask]
  cases runs : s.calls.owner? with
  | none => exact ⟨_, rfl⟩
  | some owner =>
    simp only [alone owner runs]
    exact ⟨_, rfl⟩

/-- Such a call of `super` fails whatever its arguments are, and however they would be run. -/
lemma superCall_refused (h : s.Sound) (recorded : s.census.reason why)
    (bound : (s.scopes.tryGet s.currentScope selfName).isSome)
    (alone : ∀ owner, s.calls.owner? = some owner → (s.classAt owner).parent = none)
    (loc : Location) (args : List Expr) :
    ∃ place graph, ∀ inner, evalExpr inner (.superCall loc method args) why s =
      .failed (.because (.undefinedFunction method place) why) { s with graph } := by
  obtain ⟨stored, bound, known⟩ := h.knowsSelf recorded bound
  obtain ⟨later, reads, records⟩ := lookupVariable_reads bound loc known
  rw [records.same] at reads
  obtain ⟨place, refused⟩ : ∃ place, dispatchSuper method why { s with graph := later.graph } =
      .failed (.because (.undefinedFunction method place) why) { s with graph := later.graph } :=
    dispatchSuper_refused alone
  refine ⟨place, later.graph, fun inner => ?_⟩
  simp only [evalExpr, callOnSuper, Bind.bind, reads, refused]

end

/-! ## Calls of `super` that have a result -/

/-- No call on a class has a result unless the called method has one. -/
lemma callIn_enters {inner : Inner} {expr : Expr} {target result : Justified}
    {served : ClassId × ReasonId} {method : String} {args : List Expr} {why : ReasonId}
    {s later : Session}
    (ends : callIn inner expr target served method args why s = .done result later) :
    ∃ f infos context now result' later',
      inner.call f infos context now = .done result' later' := by
  obtain ⟨name, s1, -, ends⟩ := Action.done_of_bind ends
  obtain ⟨chosen, s2, -, ends⟩ := Action.done_of_bind ends
  obtain ⟨infos, s3, -, ends⟩ := Action.done_of_bind ends
  obtain ⟨context, s4, -, ends⟩ := Action.done_of_bind ends
  obtain ⟨f, s5, -, ends⟩ := Action.done_of_bind ends
  obtain ⟨result', s6, called, -⟩ := Action.done_of_bind ends
  exact ⟨f, _, context, s5, result', s6, called⟩

/-- No call of `super` has a result but by a call of a method. -/
lemma superCall_enters {s later : Session} {steps : Nat} {loc : Location} {method : String}
    {args : List Expr} {why : ReasonId} {result : Justified}
    (ends : evalExpr (.within steps) (.superCall loc method args) why s = .done result later) :
    ¬ s.Directly steps (evalExpr · (.superCall loc method args) why) fun moment _ =>
      ∀ f infos context, moment ≠ .calling f infos context := by
  intro none
  have ends := (none (.of .inputExhausted)).trans ends
  obtain ⟨target, s1, -, ends⟩ := Action.done_of_bind ends
  obtain ⟨served, s2, -, ends⟩ := Action.done_of_bind ends
  obtain ⟨f, infos, context, now, result', later', called⟩ := callIn_enters ends
  -- The alarm is raised as soon as anything is called.
  simp only [Inner.watched, watch] at called
  rw [if_neg fun passes => passes f infos context rfl] at called
  cases called

/-! ## Calls of `super` that get to a method -/

section

variable {α : Type} {s now : Session} {steps f : Nat} {args : List Justified} {why : ReasonId}

/-- An action that begins with a call gets to it. -/
lemma directlyAt_of_begins {action : Inner → Eval α} {rest : Justified → Eval α}
    (begins : ∀ inner : Inner, action inner s = (inner.call f args why >>= rest) now) :
    s.DirectlyAt steps action (.calling f args why) now := by
  intro never
  obtain ⟨fault, unheard⟩ := (action (.within steps) s).exists_unheard
  have alarmed (ok : Moment → Session → Prop) (fails : ¬ ok (.calling f args why) now) :
      action ((Inner.within steps).watched ok (.of fault)) s = .failed (.of fault) now := by
    rw [begins]
    exact Action.bind_failed (watch_alarm fails)
  have same := never (.of fault)
  rw [alarmed _ fun passes => passes ⟨rfl, rfl⟩] at same
  exact unheard _ _ same.symm rfl

/-- A call gets to the first statement of the body. -/
lemma inBodyAt_of_opens {function : FunctionDef} {action : Inner → Eval Justified} {stmt : Stmt}
    {rest : List Stmt} (opens : ∀ inner : Inner, action inner s =
      endCall function (runStatements inner why (stmt :: rest) now)) :
    s.InBodyAt (steps + 1) action (.executing stmt why) now := by
  intro never
  obtain ⟨fault, unheard⟩ := (action (.within (steps + 1)) s).exists_unheard
  have alarmed (ok : Moment → Session → Prop) (fails : ¬ ok (.executing stmt why) now) :
      runStatements (.watchedBody ok (.of fault) (steps + 1)) why (stmt :: rest) now =
        .failed (.of fault) now :=
    Action.bind_failed (watch_alarm fails)
  have same := never (.of fault)
  rw [opens, alarmed _ fun passes => passes ⟨rfl, rfl⟩] at same
  exact unheard _ _ same.symm (CallStack.attach_fault ..)

end

namespace Session

variable {s : Session} {frames : List Frame} {why : ReasonId} {method : String} {f : FunctionId}

/-- A call of `super` gets to the function: it is in the table of the parent of the class that
defines the running method, and `self` is bound. -/
structure GetsUp (s : Session) (why : ReasonId) (method : String) (f : FunctionId) : Prop where
  self : ∃ stored, s.scopes.tryGet s.currentScope selfName = some stored ∧
    s.graph.Knows [why, stored.why]
  serves : ∃ owner parent, s.calls.owner? = some owner ∧
    (s.classAt owner).parent = some parent ∧ (s.classAt parent).methods.get? method = some f

/-- A call of `super` that gets to a function calls it, with the value of `self`. -/
lemma GetsUp.calls (up : s.GetsUp why method f) (loc : Location) :
    ∃ receiver context later, s.Notes later ∧ later.graph.Knows [context, receiver.why] ∧
      ∀ steps, s.DirectlyAt steps (evalExpr · (.superCall loc method []) why)
        (.calling f [receiver] context) later := by
  obtain ⟨⟨stored, self, known⟩, owner, parent, runs, above, found⟩ := up
  obtain ⟨s1, notes1, fresh1, begins⟩ := superCall_begins self known runs above loc method [] f
  have table : (s1.classAt parent).methods.get? method = some f := by
    rw [(Adds.of_notes notes1).classAt, found]
  obtain ⟨later, notes2, fresh2, calls⟩ :=
    @begins [] s1 (Nat.le_refl _) (List.forall_mem_nil _) table
  refine ⟨⟨stored.value, s.graph.size⟩, s1.graph.size, later, notes1.trans notes2, ?_,
    fun steps => directlyAt_of_begins fun inner => calls inner rfl⟩
  exact List.forall_mem_cons.2
    ⟨fresh2, List.forall_mem_singleton.2 (Nat.lt_of_lt_of_le fresh1 notes2.graph)⟩

/-- A chain of calls of `super` goes on in a method that takes nothing but `self`: there `self` means
the same, and the classes are as before. -/
lemma Climb.up (climb : s.Climb frames) (up : s.GetsUp why method f)
    (params : (s.functionAt f).params = [selfName]) (body : (s.functionAt f).body ≠ [])
    (room : s.calls.isFull = false) :
    ∃ called now, now.Climb ((s.functionAt f).frame :: frames) ∧ s.Adds now ∧
      now.calls = s.calls.enter (s.functionAt f).frame ∧
      ∃ stored, now.scopes.tryGet now.currentScope selfName = some stored ∧
        now.graph.Knows [called, stored.why] := by
  obtain ⟨receiver, context, later, notes, known, calls⟩ := up.calls .builtin
  obtain ⟨recorded, given⟩ := List.forall_mem_cons.1 known
  have given := List.forall_mem_singleton.1 given
  have is : later.functionAt f = s.functionAt f := (Adds.of_notes notes).functionAt f
  have counts : [receiver].length = (s.functionAt f).params.length := by rw [params]; rfl
  have distinct : (s.functionAt f).params.Nodup := params ▸ List.nodup_singleton _
  have room : later.calls.isFull = false := by rw [notes.same, room]
  obtain ⟨now, opens, fresh, runs⟩ := callFunction_opens is counts distinct room recorded
  obtain ⟨stmt, rest, body⟩ := List.exists_cons_of_ne_nil body
  have entered : later.InBodyAt 1 (Because.callFunction · f [receiver] context)
      (.executing stmt later.graph.size) now :=
    inBodyAt_of_opens (body ▸ runs)
  obtain ⟨-, location, rfl⟩ := opens
  refine ⟨later.graph.size, _, is ▸ climb.step (calls 0) entered,
    (Adds.of_notes notes).trans (bodySession_adds (Nat.le_of_lt fresh)), ?_, receiver, ?_, ?_⟩
  · change later.calls.enter _ = _
    rw [notes.same]
  · refine tryGet_bodySession ?_
    rw [params]
    rfl
  · exact List.forall_mem_cons.2 ⟨fresh, List.forall_mem_singleton.2 (Nat.lt_trans given fresh)⟩

/-- The parent of the class has a method `m` of its own, which takes nothing but `self`. -/
def Rung (s : Session) (owner parent : ClassId) : Prop :=
  (s.classAt owner).parent = some parent ∧ ∃ f ∈ (s.classAt parent).methods.get? "m",
    (s.functionAt f).owner = some parent ∧ (s.functionAt f).params = [selfName] ∧
      (s.functionAt f).body.isEmpty = false

instance (s : Session) (owner parent : ClassId) : Decidable (s.Rung owner parent) := by
  unfold Rung
  infer_instance

variable {owner parent : ClassId}

/-- A rung stays one while only reasons and objects are made. -/
lemma Rung.adds {now : Session} (rung : s.Rung owner parent) (adds : s.Adds now) :
    now.Rung owner parent := by
  obtain ⟨above, f, found, own⟩ := rung
  refine ⟨(adds.classAt owner).symm ▸ above, f, ?_, ?_⟩
  · rwa [adds.classAt]
  · rwa [adds.functionAt]

/-- From a method of the class, a chain of calls of `super` goes on to that of the parent. -/
lemma Climb.rung (climb : s.Climb frames) (rung : s.Rung owner parent)
    (runs : s.calls.owner? = some owner) (room : s.calls.isFull = false)
    (self : ∃ stored, s.scopes.tryGet s.currentScope selfName = some stored ∧
      s.graph.Knows [why, stored.why]) :
    ∃ called now frame, now.Climb (frame :: frames) ∧ frame.owner = some parent ∧ s.Adds now ∧
      now.calls = s.calls.enter frame ∧
      ∃ stored, now.scopes.tryGet now.currentScope selfName = some stored ∧
        now.graph.Knows [called, stored.why] := by
  obtain ⟨above, f, found, owns, params, body⟩ := rung
  obtain ⟨called, now, climb, adds, calls, self⟩ :=
    climb.up ⟨self, owner, parent, runs, above, found⟩ params (List.isEmpty_eq_false_iff.1 body) room
  exact ⟨called, now, _, climb, owns, adds, calls, self⟩

/-- Up a line of three classes, a chain of calls of `super` leads from the lowest to the topmost. -/
lemma InOrder.climbs (h : s.InOrder) {lower middle upper : ClassId}
    (runs : s.calls.owner? = some lower) (room : s.calls.isFull = false)
    (deeper : ∀ frame, (s.calls.enter frame).isFull = false)
    (self : ∃ stored, s.scopes.tryGet s.currentScope selfName = some stored ∧
      s.graph.Knows [why, stored.why])
    (first : s.Rung lower middle) (second : s.Rung middle upper) :
    ∃ (top : Session) (frames : List Frame), top.Climb frames ∧
      frames.map Frame.owner = [some upper, some middle, some lower] := by
  obtain ⟨frame, newest, owns⟩ := Option.bind_eq_some_iff.1 runs
  obtain ⟨called, now, frame', climb, owns', adds, calls, self⟩ :=
    (Climb.base h newest).rung first runs room self
  obtain ⟨-, top, frame'', climb, owns'', -⟩ := climb.rung (second.adds adds)
    (by rw [calls]; exact owns') (by rw [calls, deeper]) self
  exact ⟨top, _, climb, by simp only [List.map_cons, List.map_nil, owns, owns', owns'']⟩

end Session

/-- Whether `super` is about to be called, in a session of which something holds. -/
def Moment.callsSuper (holds : Session → Bool) : Moment → Session → Bool
  | .evaluating (.superCall _ method []) _, now => method = "m" && holds now
  | _, _ => false

/-- If a probe for such a moment makes a difference to a run, the run gets to one. -/
lemma exists_callsSuper {holds : Session → Bool} {fault : Fault} {steps : Nat}
    {program : Program} {s : Session}
    (differs : (runProgram (.probedWithin (fun moment now => !moment.callsSuper holds now)
        (.of fault) steps) program s).fault? ≠ (runProgram (.within steps) program s).fault?) :
    ∃ loc why now, s.DuringAt steps (runProgram · program)
      (.evaluating (.superCall loc "m" []) why) now ∧ holds now = true := by
  obtain ⟨moment, now, reached, fails⟩ := exists_duringAt fault differs
  have calls : moment.callsSuper holds now = true := by rwa [Bool.not_eq_false'] at fails
  unfold Moment.callsSuper at calls
  split at calls
  · obtain ⟨same, holds⟩ := Bool.and_eq_true_iff.1 calls
    obtain rfl := of_decide_eq_true same
    exact ⟨_, _, _, reached, holds⟩
  · cases calls

/-! ## In all sessions -/

/-- What calls of `super` do in a session: at every moment of a body the newest call in progress is
its own; in a method of a class only the method is called that the parent of the class has in its
table, and no other way leads to a result. -/
structure Session.ResolvesSuper (s : Session) : Prop where
  runs : ∀ (steps f : Nat) (args : List Justified) (why : ReasonId), f < s.functions.size →
    Justified.AllFit s args → s.InBody steps (Because.callFunction · f args why) fun _ now =>
      now.calls = s.calls.enter (s.functionAt f).frame
  target : ∀ steps loc method args why owner, s.calls.owner? = some owner →
    s.Directly steps (evalExpr · (.superCall loc method args) why) fun moment now =>
      ∀ f infos context, moment = .calling f infos context →
        now.calls = s.calls ∧ s.SuperTarget owner method f
  enters : ∀ steps loc method args why result later,
    evalExpr (.within steps) (.superCall loc method args) why s = .done result later →
      ¬ s.Directly steps (evalExpr · (.superCall loc method args) why) fun moment _ =>
        ∀ f infos context, moment ≠ .calling f infos context

/-- A call of `super` where `self` is bound, but no class defines the running method or this class
has no parent, fails at once, however its arguments would be run. -/
def Session.RefusesSuper (s : Session) : Prop :=
  ∀ loc method args why, s.census.reason why →
    (s.scopes.tryGet s.currentScope selfName).isSome →
    (∀ owner, s.calls.owner? = some owner → (s.classAt owner).parent = none) →
    ∃ place graph, ∀ inner, evalExpr inner (.superCall loc method args) why s =
      .failed (.because (.undefinedFunction method place) why) { s with graph }

/-- The classes of the methods ascend in a chain of calls of `super`, which is no longer than there
are classes from that of the oldest method upwards. -/
structure Session.Ascending (s : Session) (frames : List Frame) : Prop where
  held : frames <+: s.calls.frames
  ascends : frames.Pairwise s.Ascends
  bounded : ∀ oldest ∈ frames.getLast?, frames.length ≤ s.reach oldest

/-- In a session that is in order, calls of `super` are resolved as they should be. -/
lemma Session.InOrder.resolvesSuper {s : Session} (h : s.InOrder) : s.ResolvesSuper where
  runs steps f args why lt fit :=
    (steady_callFunction f args why).inBody_mono (body_keeps_calls h lt fit why)
      fun _ _ passes => passes.2.2
  target steps loc method args why owner runs := by
    refine (steady_evalExpr _ why).directly_mono (directly_super h steps loc method args why) ?_
    intro moment now passes f infos context called
    obtain ⟨receiver, rest, -, calls⟩ := passes f infos context called
    obtain ⟨owner', runs', target⟩ := superTarget_of_calls h calls
    cases runs.symm.trans runs'
    exact ⟨calls.later.same.calls, target⟩
  enters _ _ _ _ _ _ _ ends := superCall_enters ends

/-- In a sound session, calls of `super` without a class above are refused. -/
lemma Session.Sound.refusesSuper {s : Session} (h : s.Sound) : s.RefusesSuper :=
  fun loc _ args _ recorded bound alone => superCall_refused h recorded bound alone loc args

/-- Along a climb the classes ascend. -/
lemma Session.Climb.ascending {s : Session} {frames : List Frame} (climb : s.Climb frames) :
    s.Ascending frames := by
  obtain ⟨newest, rest, rfl, climbing⟩ := climbing_of_climb climb
  refine ⟨climbing.held, climbing.ascends, fun oldest last => ?_⟩
  have bounded := climbing.bounded oldest last
  have positive := reach_pos climbing.inOrder.rooted newest
  rw [List.length_cons]
  omega

/-- In sessions that can come about, a run is at every moment in a session that is in order and
sound. In such sessions calls of `super` resolve where their method is defined: to what the parent
of its class has in its table, which belongs to a class properly above. So the classes ascend in
every chain of such calls; and where there is no parent the call fails, and enters nothing. -/
theorem super_climbs {s : Session} (h : s.Reachable) (steps : Nat) (program : Program) :
    (s.Throughout steps program fun moment now => now.InOrder ∧ moment.Fits now) ∧
    (s.Throughout steps program fun moment now => now.Sound ∧ moment.In now.census) ∧
    (∀ now : Session, now.InOrder → now.ResolvesSuper) ∧
    (∀ (now : Session) frames, now.Climb frames → now.Ascending frames) ∧
    ∀ now : Session, now.Sound → now.RefusesSuper :=
  ⟨h.throughout steps program fun inOrder fits => ⟨inOrder, fits⟩,
    h.sound.throughout steps program, fun _ inOrder => inOrder.resolvesSuper,
    fun _ _ climb => climb.ascending, fun _ sound => sound.refusesSuper⟩

/-- A class with a method that does nothing but call the method of the parent. -/
def rung (name : String) (parent : Option String) : Stmt :=
  .declareClass .builtin ⟨name, parent, [], [⟨"m", [selfName],
    [.effect .builtin (.superCall .builtin "m" [])], .builtin⟩]⟩

/-- A line of three classes, and a call of the method on an object of the lowest. -/
def climbers : Program :=
  [rung "Grandparent" none, rung "Parent" (some "Grandparent"), rung "Child" (some "Parent"),
    .effect .builtin (.methodCall .builtin (.new .builtin "Child" []) "m" [])]

/-- In a run of the program, the method of the lowest class gets by `super` to that of its parent
and on to that of the topmost class; there the call is refused, as there is no parent. -/
theorem super_climbs_of_climbers :
    (Session.start {} {}).Reachable ∧
    (∃ loc why now, (Session.start {} {}).DuringAt 12 (runProgram · climbers)
        (.evaluating (.superCall loc "m" []) why) now ∧
      now.calls.owner? = some 7 ∧
      (∃ f infos context later,
        now.DirectlyAt 12 (evalExpr · (.superCall loc "m" []) why) (.calling f infos context) later ∧
        now.SuperTarget 7 "m" f) ∧
      ∃ (top : Session) (frames : List Frame), top.Climb frames ∧ top.Ascending frames ∧
        frames.map Frame.owner = [some 5, some 6, some 7]) ∧
    ∃ loc why now, (Session.start {} {}).DuringAt 12 (runProgram · climbers)
        (.evaluating (.superCall loc "m" []) why) now ∧
      now.calls.owner? = some 5 ∧ ∃ place graph, ∀ inner,
        evalExpr inner (.superCall loc "m" []) why now =
          .failed (.because (.undefinedFunction "m" place) why) { now with graph } := by
  have reachable := Reachable.start {} {}
  have runs := steady_runProgram climbers
  obtain ⟨ordered, known, resolves, ascending, refuses⟩ := super_climbs reachable 12 climbers
  refine ⟨reachable, ?_, ?_⟩
  -- The first call is made from the body of the lowest class. What it enters makes a call in turn,
  -- from the class in the middle, and the frames of both bodies are on the stack at its target.
  · obtain ⟨loc, why, now, reached, holds⟩ := @exists_callsSuper
      (fun now => now.calls.owner? = some 7 && now.calls.isFull = false &&
        (now.calls.enter default).isFull = false &&
        (now.scopes.tryGet now.currentScope selfName).isSome && now.Rung 7 6 && now.Rung 6 5)
      (.raised "alarm") 12 climbers (.start {} {}) (by decide +kernel)
    simp only [Bool.and_eq_true, decide_eq_true_eq] at holds
    obtain ⟨⟨⟨⟨⟨owner, room⟩, deeper⟩, bound⟩, first⟩, second⟩ := holds
    obtain ⟨inOrder, -⟩ := runs.of_duringAt ordered reached
    obtain ⟨sound, recorded⟩ := runs.of_duringAt known reached
    have self := sound.knowsSelf recorded bound
    obtain ⟨f, found, -⟩ := first.2
    obtain ⟨receiver, context, later, -, -, calls⟩ :=
      GetsUp.calls ⟨self, 7, 6, owner, first.1, found⟩ loc
    obtain ⟨-, target⟩ := (steady_evalExpr _ why).of_directlyAt
      ((resolves now inOrder).target 12 loc "m" [] why 7 owner) (calls 12) f _ context rfl
    obtain ⟨top, frames, climb, owners⟩ :=
      inOrder.climbs owner room (fun _ => deeper) self first second
    exact ⟨loc, why, now, reached, owner, ⟨f, _, context, later, calls 12, target⟩,
      top, frames, climb, ascending top frames climb, owners⟩
  · obtain ⟨loc, why, now, reached, holds⟩ := @exists_callsSuper
      (fun now => now.calls.owner? = some 5 && (now.classAt 5).parent = none &&
        (now.scopes.tryGet now.currentScope selfName).isSome)
      (.raised "alarm") 12 climbers (.start {} {}) (by decide +kernel)
    simp only [Bool.and_eq_true, decide_eq_true_eq] at holds
    obtain ⟨⟨owner, topmost⟩, bound⟩ := holds
    obtain ⟨sound, recorded⟩ := runs.of_duringAt known reached
    have alone (id : ClassId) (runs : now.calls.owner? = some id) :
        (now.classAt id).parent = none := by
      cases owner.symm.trans runs
      exact topmost
    exact ⟨loc, why, now, reached, owner, refuses now sound loc "m" [] why recorded bound alone⟩

end Because
