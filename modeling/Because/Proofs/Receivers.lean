import Because.Proofs.Orderly.Kept
import Because.Proofs.Probes
import Because.Proofs.Stacks

/-!
# Receivers

A method of a class is meant for objects of the class and of those below it; the built-in ones rely
on the state that such an object has. When a method is found by the class of the object that it is
called on, the object is one of these. A call of `super` finds its method by the class that defines
the running method and takes the object from the variable `self`, to which programs may assign
anything: only as long as it means such an object does the called method run on one.
-/

namespace Because

open Session Comparison

namespace Session

/-- What is called at a moment, if anything, suits its receiver: a method of a class is called on an
object of the class or of one below it, and a method of a built-in class on an object with the state
of this class. -/
def Suits (s : Session) (moment : Moment) : Prop :=
  ∀ f args why, moment = .calling f args why → ∀ owner, (s.functionAt f).owner = some owner →
    ∃ receiver rest, args = receiver :: rest ∧ s.InstanceOf receiver.value owner ∧
      ∀ builtin, (s.classAt owner).builtin = some builtin →
        ∃ handle, s.handle? receiver.value = some handle ∧ handle.builtin = builtin

/-- If `self` means anything in a method of a class, it means an object of the class or of one below
it. -/
def SelfSuits (s : Session) : Prop :=
  ∀ owner stored, s.calls.owner? = some owner →
    s.scopes.tryGet s.currentScope selfName = some stored → s.InstanceOf stored.value owner

/-- A call of a function that receives its arguments suits its receiver. -/
lemma Orderly.suits {names : String → Prop} {s : Session} (h : s.Orderly names) {f : FunctionId}
    {args : List Justified} (fit : Justified.AllFit s args) (receives : s.Receives f args)
    (why : ReasonId) : s.Suits (.calling f args why) := by
  rintro _ _ _ ⟨⟩ owner owns
  obtain ⟨receiver, rest, rfl, instance_⟩ := receives owner owns
  exact ⟨receiver, rest, rfl, instance_, fun builtin isBuiltin =>
    h.handle_of_instance (fit receiver List.mem_cons_self) instance_ isBuiltin⟩

end Session

/-! ## Nodes -/

namespace Regime

variable {R : Regime} {s now : Session}

/-- Methods are called on receivers that suit them, and what every change keeps holds. -/
def receiving (P : Session → Prop) (kept : Kept P) : Regime where
  __ := keeping P kept
  ready s f args := s.Receives f args
  receives _ _ _ receives := receives

/-- A regime under which methods are called on receivers that suit them. -/
lemma Sees.suits {moment : Moment} (sees : R.Sees moment now)
    (receives : ∀ {f args}, R.ready now f args → now.Receives f args) : now.Suits moment := by
  obtain ⟨good, knows⟩ := sees
  cases moment with
  | calling f args why => exact good.orderly.suits knows.2.1 (receives knows.2.2) why
  | _ => rintro _ _ _ ⟨⟩

/-- If `self` suits the running method, it suits the methods that `super` calls. -/
lemma SuperCalls.receives {method : String} {f : Nat} {receiver : Justified}
    {args : List Justified} (calls : R.SuperCalls s now method f receiver args)
    (orderly : s.Orderly R.names) (suits : s.SelfSuits) : now.Receives f (receiver :: args) := by
  intro definer owns
  obtain ⟨stored, self, same⟩ := calls.self
  obtain ⟨owner, parent, runs, above, found⟩ := calls.serves
  have orderly' := calls.good.orderly
  have grows := calls.later.grows
  have lt := orderly.owner_lt runs
  have ltParent := Nat.lt_trans (orderly.rooted.classes owner parent above) lt
  rw [← grows.parentClass lt] at above
  have fits := orderly.tryGet orderly.currentScope.noImpl self
  obtain ⟨actual, ofClass, lies⟩ :=
    (suits owner stored runs self).grows fits orderly.rooted orderly'.rooted grows
  obtain ⟨-, definer', mem, owns'⟩ :=
    orderly'.method_owner (Nat.lt_of_lt_of_le ltParent grows.classes) found
  cases owns'.symm.trans owns
  refine ⟨receiver, args, rfl, actual, same ▸ ofClass, ?_⟩
  exact orderly'.rooted.mem_lineage_trans (orderly'.rooted.mem_lineage_of_parent above mem) lies

end Regime

section

variable {P : Session → Prop} {s : Session} {ok : Moment → Session → Prop} (h : s.InOrder)
  (kept : Kept P) (holds : P s)
  (passes : ∀ {moment now}, now.InOrder → P now → moment.Fits now → now.Suits moment →
    ok moment now)

include passes in
/-- A watch that passes suitable calls makes no difference to what runs, as long as `P` is kept. -/
lemma receiving_inside (steps : Nat) :
    ((Inner.within steps).watched ok (.of idleFault)).Regular (Regime.receiving P kept) :=
  (Regime.plain_within steps).regain.watched fun sees =>
    passes sees.good.orderly sees.good.holds sees.fits (sees.suits id)

include h kept holds passes

/-- Whatever an expression calls suits its receiver; for a call of `super` this is so if `self`
suits the running method. -/
lemma directly_receives_expr (steps : Nat) (expr : Expr) (why : ReasonId)
    (suits : expr.CallsSuper → s.SelfSuits) : s.Directly steps (evalExpr · expr why) ok := by
  have inside := receiving_inside kept passes steps
  have good : (Regime.receiving P kept).Good s := ⟨h, holds⟩
  have leads : (Regime.receiving P kept).Leads [] Failure.Calm Fitting s
      (evalExpr ((Inner.within steps).watched ok (.of idleFault)) expr why s) := by
    cases expr with
    | superCall loc method args =>
      refine Regime.evalSuper_leads inside.toEvaluates good _ loc method args ?_
      intro now f receiver infos context calls
      have receives := calls.receives h (suits trivial)
      exact inside.call context calls.good calls.made calls.fit receives
    | _ => exact Regime.evalExpr_leads inside good _ False.elim
  exact (steady_evalExpr expr why).directly leads.unheard

/-- Whatever a statement calls suits its receiver. -/
lemma directly_receives_stmt (steps : Nat) (stmt : Stmt) (why : ReasonId) :
    s.Directly steps (execStmt · stmt why) ok := by
  have good : (Regime.receiving P kept).Good s := ⟨h, holds⟩
  have tidy : stmt.Tidy fun _ => True := Stmt.tidy_all (fun _ => trivial) stmt
  exact (steady_execStmt stmt why).directly
    (Regime.execStmt_leads (receiving_inside kept passes steps) good tidy).unheard

end

/-- All that an expression calls itself suits its receiver; for a call of `super` this is so if
`self` suits the running method. -/
lemma directly_suits_expr {s : Session} (h : s.InOrder) (steps : Nat) (expr : Expr)
    (why : ReasonId) (suits : expr.CallsSuper → s.SelfSuits) :
    s.Directly steps (evalExpr · expr why) fun moment now => now.Suits moment :=
  directly_receives_expr h (P := fun _ => True) (fun _ _ _ => id) trivial
    (fun _ _ _ suits => suits) steps expr why suits

/-- All that a statement calls itself suits its receiver. -/
lemma directly_suits_stmt {s : Session} (h : s.InOrder) (steps : Nat) (stmt : Stmt)
    (why : ReasonId) :
    s.Directly steps (execStmt · stmt why) fun moment now => now.Suits moment :=
  directly_receives_stmt h (P := fun _ => True) (fun _ _ _ => id) trivial
    (fun _ _ _ suits => suits) steps stmt why

/-! ## Programs that do not bind `self` -/

namespace Session

variable {names : String → Prop} {s s' : Session}

/-- What `self` means in the running method, if it is no global variable. -/
def localSelf? (s : Session) : Option Justified :=
  s.visible.dropLast.findSome? fun i => s.scopes.local? i selfName

/-- The value of a name is what the nearest of the scopes upwards binds to it. -/
lemma tryGet_eq (scopes : Scopes) (i : ScopeId) (name : String) :
    scopes.tryGet i name = (scopes.chain i).findSome? fun j => scopes.local? j name := by
  unfold Scopes.tryGet Scopes.tryFind
  induction scopes.chain i with
  | nil => rfl
  | cons j rest ih =>
    rw [List.find?_cons, List.findSome?_cons, Scopes.binds, Assoc.contains]
    unfold Scopes.local? at ih ⊢
    cases e : (scopes.scopeAt j).bindings.get? name with
    | some info => simp only [Option.isSome_some, Option.bind_some, e]
    | none =>
      simp only [Option.isSome_none]
      exact ih

/-- The global scope is the last one in which variables are sought. -/
lemma Orderly.visible_split (h : s.Orderly names) :
    s.visible = s.visible.dropLast ++ [globalScope] ∧ globalScope ∉ s.visible.dropLast := by
  obtain ⟨below, eq, notMem⟩ := (h.chain_ordinary h.currentScope).2
  rw [visible, eq, List.dropLast_concat]
  exact ⟨rfl, notMem⟩

/-- What `self` means below the global scope is what it means. -/
lemma Orderly.tryGet_self (h : s.Orderly names) {info : Justified}
    (found : s.localSelf? = some info) :
    s.scopes.tryGet s.currentScope selfName = some info := by
  rw [tryGet_eq]
  change s.visible.findSome? _ = _
  rw [h.visible_split.1, List.findSome?_append]
  unfold localSelf? at found
  rw [found, Option.some_or]

/-- A search is the same if it asks the same of everything in the list. -/
lemma findSome?_congr {α β : Type} {f g : α → Option β} {xs : List α}
    (same : ∀ x ∈ xs, f x = g x) : xs.findSome? f = xs.findSome? g := by
  induction xs with
  | nil => rfl
  | cons x rest ih =>
    obtain ⟨first, others⟩ := List.forall_mem_cons.1 same
    rw [List.findSome?_cons, List.findSome?_cons, first, ih others]

/-- As long as nothing binds `self` in another scope than the global one, the visible scopes bind
what they have bound. -/
lemma Orderly.localSelf_grows (h : s.Orderly names) {o : Places} (grows : s.Grows o s')
    (shut : ∀ i, i ≠ globalScope → ¬ o i selfName) :
    (s.visible.dropLast.findSome? fun i => s'.scopes.local? i selfName) = s.localSelf? := by
  refine findSome?_congr fun i mem => ?_
  have ordinary := h.visible_ordinary i ((List.dropLast_sublist _).subset mem)
  refine grows.locals i selfName ordinary.made ordinary.untagged (shut i ?_)
  rintro rfl
  exact h.visible_split.2 mem

/-- In a method of a class, `self` means an object of the class or of one below it, and is no global
variable. -/
def HoldsSelf (s : Session) : Prop :=
  ∀ owner, s.calls.owner? = some owner →
    ∃ info, s.localSelf? = some info ∧ s.InstanceOf info.value owner

/-- If `self` is an object of the class or of one below it, it suits the running method. -/
lemma HoldsSelf.suits (h : s.HoldsSelf) (orderly : s.Orderly names) : s.SelfSuits := by
  intro owner stored runs bound
  obtain ⟨info, found, instance_⟩ := h owner runs
  cases (orderly.tryGet_self found).symm.trans bound
  exact instance_

/-- What `self` means it goes on to mean. -/
lemma HoldsSelf.grows (h : s.HoldsSelf) (orderly : s.Orderly names) (orderly' : s'.Orderly names)
    {o : Places} (grows : s.Grows o s') (calls : s'.calls = s.calls)
    (same : s'.localSelf? = s.localSelf?) : s'.HoldsSelf := by
  intro owner runs
  rw [calls] at runs
  obtain ⟨info, found, instance_⟩ := h owner runs
  have fits := orderly.tryGet orderly.currentScope.noImpl (orderly.tryGet_self found)
  exact ⟨info, same.trans found, instance_.grows fits orderly.rooted orderly'.rooted grows⟩

end Session

namespace Regime

/-- Nothing but the parameters of methods binds `self`. -/
def sheltered : Regime where
  names name := name ≠ selfName
  holds s := s.HoldsSelf
  ready s f args := Justified.AllFit s args ∧ s.Receives f args
  lasts orderly orderly' holds later := by
    refine holds.grows orderly orderly' later.grows later.same.calls ?_
    rw [localSelf?, later.visible orderly orderly']
    refine orderly.localSelf_grows later.grows ?_
    exact fun i other opens => opens.elim other fun ⟨_, unbound⟩ => unbound rfl
  block {s} description orderly holds := by
    have good : (plain fun name => name ≠ selfName).Good s := ⟨orderly, trivial⟩
    have grows : s.Grows (fun _ _ => False) (s.inBlock description) := inBlock_grows s description
    refine holds.grows orderly (good.inBlock description).orderly grows rfl ?_
    -- The scope of the block is the first that is visible, and binds nothing yet.
    have bare : (s.inBlock description).scopes.local? s.scopes.size selfName = none :=
      congrArg (fun scope => scope.bindings.get? selfName)
        ((scopeAt_withScope ..).trans (if_pos rfl))
    have nonempty : s.visible ≠ [] := List.ne_nil_of_mem orderly.global_visible
    rw [localSelf?, good.visible_inBlock, List.dropLast_cons_of_ne_nil nonempty,
      List.findSome?_cons, bare]
    exact orderly.localSelf_grows grows fun _ _ => id
  receives _ _ fit receives := ⟨fit, receives⟩

/-- Where nothing but the parameters of methods binds `self`, calls on `super` are ready. -/
lemma sheltered_supers : sheltered.Supers :=
  fun good calls => ⟨calls.fit, calls.receives good.orderly (good.holds.suits good.orderly)⟩

/-- The first parameter of a method is `self`, and its first argument is the receiver. -/
lemma sheltered_bodies : sheltered.Bodies := by
  intro s f args orderly lt ⟨fit, receives⟩ now orderly' counts begun owner runs
  rw [begun.calls] at runs
  have owns : (s.functionAt f).owner = some owner := runs
  obtain ⟨receiver, rest, rfl, instance_⟩ := receives owner owns
  have takes : (s.functionAt f).params.head? = some selfName :=
    ((orderly.tidy f lt).takesSelf (Option.isSome_iff_exists.2 ⟨_, owns⟩)).resolve_right
      fun unbound => unbound rfl
  obtain ⟨params, eq⟩ := List.head?_eq_some_iff.1 takes
  have bound : now.scopes.local? s.scopes.size selfName = some receiver :=
    begun.bound (selfName, receiver) (by rw [eq]; exact List.mem_cons_self)
  refine ⟨receiver, ?_, ?_⟩
  · rw [localSelf?, begun.visible orderly', List.dropLast_cons_cons, List.findSome?_cons, bound]
  · exact instance_.grows (fit receiver List.mem_cons_self) orderly.rooted orderly'.rooted
      begun.grows

end Regime

/-! ## All programs -/

namespace Session

/-- No function of the session binds `self` but as a parameter, and methods take it first. -/
def Sheltered (s : Session) : Prop :=
  ∀ f : Nat, f < s.functions.size → (s.functionAt f).Tidy fun name => name ≠ selfName

/-- A session that can come about, none of whose functions binds `self`, is good to start from. -/
lemma Reachable.sheltered_good {s : Session} (h : s.Reachable) (sheltered : s.Sheltered) :
    Regime.sheltered.Good s := by
  have idle : s.calls.owner? = none := by
    rw [CallStack.owner?, h.stacks.2]
    rfl
  refine ⟨{ h.inOrder with tidy := sheltered }, fun owner runs => ?_⟩
  rw [idle] at runs
  cases runs

end Session

/-- In sessions that can come about, a run is in order at every moment. There, everything that an
expression or a statement calls suits its receiver, but for calls of `super` where `self` does not
suit the running method. In a run in which nothing but parameters binds `self` it always does, and
everything that is called suits its receiver; and this may be said of the next run as well. -/
theorem receivers_suit {s : Session} (h : s.Reachable) (steps : Nat) (program : Program) :
    (s.Throughout steps program fun moment now => now.InOrder ∧ moment.Fits now) ∧
    (∀ now : Session, now.InOrder →
      (∀ steps expr why, (expr.CallsSuper → now.SelfSuits) →
        now.Directly steps (evalExpr · expr why) fun moment later => later.Suits moment) ∧
      ∀ steps stmt why,
        now.Directly steps (execStmt · stmt why) fun moment later => later.Suits moment) ∧
    (s.Sheltered → (∀ stmt ∈ program, stmt.Tidy fun name => name ≠ selfName) →
      (s.Throughout steps program fun moment now => now.Suits moment ∧ now.SelfSuits ∧
        (now.calls.owner?.isSome → (now.scopes.tryGet now.currentScope selfName).isSome)) ∧
      ∀ s', (runProgram (.within steps) program s).session? = some s' → s'.Sheltered) := by
  refine ⟨h.throughout steps program fun inOrder fits => ⟨inOrder, fits⟩, ?_, ?_⟩
  · intro now inOrder
    exact ⟨fun steps expr why suits => directly_suits_expr inOrder steps expr why suits,
      fun steps stmt why => directly_suits_stmt inOrder steps stmt why⟩
  · intro sheltered tidy
    have good := h.sheltered_good sheltered
    constructor
    · refine Regime.during_run Regime.sheltered_supers Regime.sheltered_bodies good tidy ?_
      intro moment now sees
      have holds : now.HoldsSelf := sees.good.holds
      refine ⟨sees.suits And.right, holds.suits sees.good.orderly, fun runs => ?_⟩
      obtain ⟨owner, runs⟩ := Option.isSome_iff_exists.1 runs
      obtain ⟨info, found, -⟩ := holds owner runs
      exact Option.isSome_iff_exists.2 ⟨info, sees.good.orderly.tryGet_self found⟩
    · intro s' left
      have leads := Regime.runProgram_leads
        (.within Regime.sheltered_supers Regime.sheltered_bodies steps) good tidy
      exact (leads.left left).1.orderly.tidy

/-- A class whose method calls the `toString` of String by `super`. -/
def echoer : Program :=
  [.declareClass .builtin ⟨"Name", some "String", [],
    [⟨"m", [selfName], [.ret .builtin (.superCall .builtin "toString" [])], .builtin⟩]⟩,
    .print .builtin (.methodCall .builtin (.new .builtin "Name" [.const .builtin (.str "ada")])
      "m" [])]

/-- The program binds no `self`. -/
lemma echoer_tidy : ∀ stmt ∈ echoer, stmt.Tidy fun name => name ≠ selfName := by
  refine List.forall_mem_cons.2 ⟨?_, List.forall_mem_singleton.2 ?_⟩
  · refine Stmt.tidy_iff.2 ⟨List.forall_mem_singleton.2 (.inl rfl), List.forall_mem_singleton.2 ?_⟩
    exact Stmt.tidy_iff.2 ⟨trivial, fun _ none => absurd none List.not_mem_nil⟩
  · exact Stmt.tidy_iff.2 ⟨trivial, fun _ none => absurd none List.not_mem_nil⟩

/-- A program that calls `super` and does not bind `self`, in a new session. -/
theorem receivers_suit_of_start :
    (Session.start {} {}).Reachable ∧ (Session.start {} {}).Sheltered ∧
    (∀ stmt ∈ echoer, stmt.Tidy fun name => name ≠ selfName) ∧
    (Session.start {} {}).Throughout 14 echoer fun moment now => now.Suits moment ∧
      now.SelfSuits ∧
      (now.calls.owner?.isSome → (now.scopes.tryGet now.currentScope selfName).isSome) := by
  have reachable := Reachable.start {} {}
  have sheltered : (Session.start {} {}).Sheltered := (start_orderly {} {}).tidy
  obtain ⟨-, -, suits⟩ := receivers_suit reachable 14 echoer
  exact ⟨reachable, sheltered, echoer_tidy, (suits sheltered echoer_tidy).1⟩

/-! ## A program that assigns to `self` -/

instance (s : Session) (value : Value) (id : ClassId) : Decidable (s.InstanceOf value id) :=
  inferInstanceAs (Decidable (∃ actual ∈ s.classOf? value, id ∈ s.lineage actual))

/-- A method of a class that is called with nothing but `self` is called on an object of the class
or of one below it. -/
def Session.KnowsSelf (s : Session) (moment : Moment) : Prop :=
  ∀ f receiver why owner, moment = .calling f [receiver] why →
    (s.functionAt f).params = [selfName] → (s.functionAt f).owner = some owner →
    s.InstanceOf receiver.value owner

/-- Whether what is called at a moment, if anything, knows `self`. -/
def Session.knowsSelf : Moment → Session → Bool
  | .calling f [receiver] _, s => (s.functionAt f).owner.all fun owner =>
    decide ((s.functionAt f).params = [selfName] → s.InstanceOf receiver.value owner)
  | _, _ => true

/-- Whether calls at a moment know `self` can be computed. -/
lemma Session.knowsSelf_iff (moment : Moment) (now : Session) :
    now.KnowsSelf moment ↔ knowsSelf moment now = true := by
  constructor
  · intro h
    unfold knowsSelf
    split
    · rename_i f receiver why
      simp only [Option.all_eq_true, decide_eq_true_eq]
      exact fun owner owns params => h f receiver why owner rfl params owns
    · rfl
  · rintro knows f receiver why owner rfl params owns
    simp only [knowsSelf, owns, Option.all_some, decide_eq_true_eq] at knows
    exact knows params

/-- A class whose method assigns a number to `self` and calls `toString` of String by `super`. -/
def renamer : Program :=
  [.declareClass .builtin ⟨"Name", some "String", [], [⟨"m", [selfName],
    [.assign .builtin selfName (.new .builtin "Num" [.const .builtin (.int 7)]),
      .ret .builtin (.superCall .builtin "toString" [])], .builtin⟩]⟩,
    .print .builtin (.methodCall .builtin (.new .builtin "Name" [.const .builtin (.str "ada")])
      "m" [])]

/-- Receivers need not suit: after an assignment to `self` a method of String runs on a number. -/
theorem super_misses_self : (Session.start {} {}).Reachable ∧
    ¬ (Session.start {} {}).Throughout 14 renamer fun moment now => now.KnowsSelf moment := by
  refine ⟨.start {} {}, fun throughout => ?_⟩
  have same := throughout (.of (.raised "alarm"))
  rw [watchedWithin_eq_probedWithin Session.knowsSelf_iff] at same
  -- The probe stops the run at the alarm, and does not get to print the number.
  have printed := congrArg (fun o => o.session?.map fun now => now.console.printed) same
  revert printed
  decide +kernel

end Because
