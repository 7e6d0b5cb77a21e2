import Because.Eval.Stmt
import Because.Proofs.Orderly.Expr

/-!
# Statements in orderly sessions

Every rule for one statement, given that what lies inside runs as it should. A statement writes to
the visible scopes, and only names that the program may bind; apart from that, it gives properties
of objects new values and declares classes. So the body of a loop, which sees a scope of its own
and all that the loop sees, may write to just what the loop may write to or has made itself.
-/

namespace Because

open Session

/-! ## Variables -/

/-- What an assignment does with its value. -/
def writeVariable (name : String) (loc : Location) (why : ReasonId) (result : Justified) :
    Eval Unit := do
  let rendered ← Action.render result.value
  let assigned ← Action.full name rendered loc why [result.why]
  let current ← Action.currentScope
  (Action.assign current name ⟨result.value, assigned⟩).mapError (·.withReason why)

/-- What a declaration does before it assigns. -/
def makeVariable (name : String) (why : ReasonId) : Eval Unit := do
  let default ← Action.text "the default variable value is None"
  let current ← Action.currentScope
  (Action.declare current name (.none default)).mapError (·.withReason why)

/-- An assignment evaluates its expression and writes the value. -/
lemma execStmt_assign (inner : Inner) (loc : Location) (name : String) (value : Expr)
    (why : ReasonId) :
    execStmt inner (.assign loc name value) why =
      (inner.eval value why >>= writeVariable name loc why) >>= fun _ => return .normal := rfl

/-- A declaration makes a variable without a value, evaluates its expression and writes the value.
-/
lemma execStmt_declare (inner : Inner) (loc : Location) (name : String) (value : Expr)
    (why : ReasonId) :
    execStmt inner (.declare loc name value) why =
      (makeVariable name why >>= fun _ => inner.eval value why >>= writeVariable name loc why) >>=
        fun _ => return .normal := rfl

namespace Regime

variable {R : Regime} {inner : Inner} {s : Session} {v : List ScopeId} {why : ReasonId}

/-- A failure that is given another reason. -/
lemma Leads.withReason {α : Type} {P : α → Session → Prop} {s' : Session} {a : Eval α}
    (h : R.Leads v Failure.Calm P s (a s')) :
    R.Leads v Failure.Calm P s ((a.mapError (·.withReason why)) s') :=
  h.mapError fun _ calm => calm

/-- What has been recorded as the value of a variable becomes the value of the nearest variable of
the name, which is one of an ordinary scope that is visible. -/
lemma assign_leads (good : R.Good s) {name shown text : String} (allowed : R.names name)
    {value : Value} (fits : value.Fits s) {calling : ReasonId} {values : List ReasonId}
    {location : Option Location} (recorded : s.graph.Knows (calling :: values))
    (global : s.scopes.tryFind s.currentScope name = some globalScope → shown = name) :
    R.Leads s.visible Failure.Calm Any s
      (Action.assign s.currentScope name ⟨value, s.graph.size⟩ { s with
        graph := s.graph.pushFull shown text calling values location }) := by
  refine .assign good recorded (fun owner found => ?_) fits
  have mem : owner ∈ s.visible := List.mem_of_find?_eq_some found
  have ordinary := good.orderly.visible_ordinary owner mem
  refine ⟨ordinary.noImpl, .inr (.inr ⟨mem, allowed⟩), .assign location recorded ordinary.untagged ?_ ?_⟩
  · exact List.find?_some (p := fun i => s.scopes.binds i name) found
  · rintro rfl
    exact global found

/-- A new variable belongs to the current scope. -/
lemma declareHere_leads (good : R.Good s) {name : String} (allowed : R.names name)
    (info : Justified) (fits : info.value.Fits s) :
    R.Leads s.visible Failure.Calm (fun _ now => now.scopes.binds s.currentScope name = true) s
      (Action.declare s.currentScope name info s) := by
  have mem : s.currentScope ∈ s.visible := by
    rw [visible, good.orderly.rooted.chain_eq]
    exact List.mem_cons_self
  have ordinary := good.orderly.currentScope
  refine (Leads.declare good ordinary (.inr ⟨mem, allowed⟩) fits).weaken ?_
  rintro _ _ - - rfl
  have bound := Scopes.local_bind s.scopes s.currentScope name info s.currentScope name
  rw [if_pos ⟨⟨rfl, ordinary.made⟩, rfl⟩] at bound
  exact congrArg Option.isSome bound

/-- A fitting value may be written to a variable of a name that may be bound. -/
lemma writeVariable_leads (good : R.Good s) {name : String} (allowed : R.names name)
    (loc : Location) {result : Justified} (fits : result.value.Fits s) :
    R.Leads s.visible Failure.Calm Any s (writeVariable name loc why result s) := by
  refine .ask (.bindFrom (.full good ..) ?_)
  rintro _ _ - - ⟨rfl, recorded, location, rfl⟩
  exact .ask (.withReason (assign_leads good allowed fits recorded fun _ => rfl))

/-- A variable may be made of a name that may be bound. -/
lemma makeVariable_leads (good : R.Good s) {name : String} (allowed : R.names name) :
    R.Leads s.visible Failure.Calm Any s (makeVariable name why s) := by
  refine .bind good (.text good _) fun default s1 good1 later _ => .ask ?_
  rw [← later.visible good.orderly good1.orderly]
  have declared := declareHere_leads good1 allowed (.none default) trivial
  exact .withReason (declared.weaken fun _ _ _ => trivial)

/-- A value is written where the evaluation began. -/
lemma evalAndWrite_leads (h : inner.Regular R) (good : R.Good s) {name : String}
    (allowed : R.names name) (value : Expr) (loc : Location) :
    R.Leads s.visible Failure.Calm Any s
      ((inner.eval value why >>= writeVariable name loc why) s) := by
  refine .bind good (.widen (h.eval value why good)) fun result s1 good1 later fits => ?_
  rw [← later.visible good.orderly good1.orderly]
  exact writeVariable_leads good1 allowed loc fits

/-! ## Properties -/

/-- The owner of a property is an object that binds it, and nothing changes. -/
lemma expectOwner_leads (good : R.Good s) (owner : Justified) (property : String) :
    R.Leads v Failure.Calm
      (fun object now => s = now ∧ owner.value = .object object ∧
        s.scopes.binds object property = true) s
      (expectOwner owner property s) := by
  obtain ⟨value, because⟩ := owner
  cases value with
  | object object =>
    refine .ask ?_
    cases own : s.scopes.binds object property with
    | true => exact .pure good ⟨rfl, rfl, own⟩
    | false => exact .ask (.because good nofun)
  | _ => exact .ask (.because good nofun)

/-- A scope that binds a name itself is the one where the name is found. -/
lemma tryFind_self (rooted : s.Rooted) {i : ScopeId} {name : String}
    (own : s.scopes.binds i name = true) : s.scopes.tryFind i name = some i := by
  rw [Scopes.tryFind, rooted.chain_eq, List.find?_cons, own]

/-- Only properties of the object itself are changed. -/
lemma execSetProperty_leads (h : inner.Regular R) (good : R.Good s) (owner : Expr)
    (property : String) (value : Expr) (loc : Location) :
    R.Leads [] Failure.Calm Any s (execSetProperty inner owner property value loc why s) := by
  refine .bind good (h.eval owner why good) fun ownerInfo s1 good1 _ known => ?_
  refine .bind good1 (expectOwner_leads good1 ownerInfo property) ?_
  rintro object _ - - ⟨rfl, isObject, own⟩
  refine .bind good1 (h.eval value why good1) fun result s2 good2 later2 fits => ?_
  have known : (Value.object object).Fits s1 := isObject ▸ known
  obtain ⟨id, -, kind⟩ := known.grows later2.grows
  obtain ⟨tag, tagged, -⟩ := Option.map_eq_some_iff.1 kind
  have isTagged : (s2.scopes.scopeAt object).tag.isSome := Option.isSome_iff_exists.2 ⟨tag, tagged⟩
  have own := later2.grows.binds _ _ own
  refine .ask (.ask (.bindFrom (.full good2 ..) ?_))
  rintro _ _ - - ⟨rfl, recorded, location, rfl⟩
  refine .withReason (.assign good2 recorded (fun holder found => ?_) fits)
  rw [tryFind_self good2.orderly.rooted own] at found
  cases found
  exact ⟨good2.orderly.noImpl_of_kind kind, .inl isTagged, .assignProperty location recorded isTagged own⟩

/-! ## Loops -/

/-- The items that a loop visits all fit, and nothing changes. -/
lemma expectItems_leads (good : R.Good s) (collection : Justified) :
    R.Leads v Failure.Calm (fun items now => s = now ∧ Justified.AllFit s items) s
      (expectItems collection s) := by
  refine .ask ?_
  cases found : s.handle? collection.value with
  | none => exact .ask (.because good nofun)
  | some handle =>
    have fits := good.orderly.handle found
    cases handle with
    | list items => exact .pure good ⟨rfl, fits⟩
    | dict entries =>
      refine .pure good ⟨rfl, fun key mem => ?_⟩
      obtain ⟨entry, held, rfl⟩ := List.mem_map.1 mem
      exact (fits entry held).1
    | _ => exact .ask (.because good nofun)

/-- Every pass runs in a block of its own below the scope of the loop, which is not the global one
and binds the variable. -/
lemma forItems_leads (h : inner.Regular R) (good : R.Good s) {name : String}
    (allowed : R.names name) (below : s.currentScope ≠ globalScope)
    (own : s.scopes.binds s.currentScope name = true) (loc : Location) {body : List Stmt}
    (tidy : ∀ stmt ∈ body, stmt.Tidy R.names) (collectionWhy : ReasonId) {items : List Justified}
    (fit : Justified.AllFit s items) :
    R.Leads s.visible Failure.Calm FlowFitting s
      (forItems inner s.currentScope name loc body collectionWhy why items s) := by
  induction items generalizing s with
  | nil => exact .pure good trivial
  | cons item rest ih =>
    obtain ⟨first, others⟩ := List.forall_mem_cons.1 fit
    have others : Justified.AllFit s rest := others
    refine .ask (.bindFrom (.full good ..) ?_)
    rintro _ _ - - ⟨rfl, recorded, location, rfl⟩
    have elsewhere : s.scopes.tryFind s.currentScope name ≠ some globalScope := by
      rw [tryFind_self good.orderly.rooted own]
      exact fun same => below (Option.some.inj same)
    refine .bind good (assign_leads good allowed first recorded fun found =>
      absurd found elsewhere) fun _ s1 good1 later1 _ => ?_
    have same := later1.visible good.orderly good1.orderly
    rw [← later1.currentScope, ← same]
    refine .newScope (.bind good1 (.inBlock good1 _ flowFitting_lasting
      (runStatements_leads h (good1.inBlock _) tidy)) fun flow s2 good2 later2 fits => ?_)
    cases flow with
    | normal =>
      have later := later1.trans good.orderly (same ▸ later2)
      rw [← later2.currentScope, ← later2.visible good1.orderly good2.orderly]
      refine ih good2 ?_ ?_ (others.grows later.grows)
      · rwa [later.currentScope]
      · rw [later.currentScope]
        exact later.grows.binds _ _ own
    | returned result => exact .pure good2 fits

/-- A loop over a collection runs as it should once its scope has been entered. -/
lemma forCollection_leads (h : inner.Regular R) (good : R.Good s) {name : String}
    (allowed : R.names name) (below : s.currentScope ≠ globalScope) (values : Expr)
    {body : List Stmt} (tidy : ∀ stmt ∈ body, stmt.Tidy R.names) :
    R.Leads s.visible Failure.Calm FlowFitting s
      (forCollection inner s.currentScope name values body why s) := by
  refine .bind good (.widen (h.eval values why good)) fun collection s1 good1 later1 _ => ?_
  refine .bind good1 (.text good1 _) fun initialized s2 good2 later2 _ => ?_
  have later := later1.trans good.orderly later2
  rw [← later.currentScope] at below ⊢
  rw [← later.visible good.orderly good2.orderly]
  refine .bind good2 (declareHere_leads good2 allowed _ trivial) fun _ s3 good3 later3 own => ?_
  refine .bind good3 (expectItems_leads good3 collection) ?_
  rintro items _ - - ⟨rfl, fit⟩
  rw [← later3.currentScope] at below own ⊢
  rw [← later3.visible good2.orderly good3.orderly]
  exact forItems_leads h good3 allowed below own _ tidy _ fit

/-- A loop over a collection runs as it should. -/
lemma execForEach_leads (h : inner.Regular R) (good : R.Good s) {name : String}
    (allowed : R.names name) (values : Expr) {body : List Stmt}
    (tidy : ∀ stmt ∈ body, stmt.Tidy R.names) :
    R.Leads s.visible Failure.Calm FlowFitting s (execForEach inner name values body why s) := by
  refine .inBlock good _ flowFitting_lasting ?_
  -- The scope of the loop is newer than the global one.
  exact forCollection_leads h (good.inBlock _) allowed (Nat.ne_of_gt good.orderly.global.made) values
    tidy

/-- How a pass of a loop has ended, if there was one. -/
abbrev PassFitting : Option Flow → Session → Prop := fun pass s => ∀ flow ∈ pass, flow.Fits s

/-- Whether a pass has returned what fits depends on scopes, classes and functions alone. -/
lemma passFitting_lasting : Lasting PassFitting :=
  fun _ _ _ same fits flow mem => flowFitting_lasting _ _ _ same (fits flow mem)

/-- A pass of a `while` loop runs as it should. -/
lemma whilePass_leads (h : inner.Regular R) (good : R.Good s) (condition : Expr)
    {body : List Stmt} (tidy : ∀ stmt ∈ body, stmt.Tidy R.names) (loc : Location) :
    R.Leads s.visible Failure.Calm PassFitting s (whilePass inner condition body loc why s) := by
  refine .bind good (.widen (h.eval condition why good)) fun result s1 good1 later1 _ => ?_
  refine .bind good1 (expectCondition_leads good1 result condition) ?_
  rintro truth _ - - rfl
  cases truth with
  | true =>
    refine .ask (.bind good1 (.full good1 ..) fun pass s2 good2 later2 _ => ?_)
    rw [← (later1.trans good.orderly later2).visible good.orderly good2.orderly]
    refine .bind good2 (runStatements_leads h good2 tidy) fun flow s3 good3 _ fits => ?_
    exact .pure good3 fun _ same => Option.mem_some.1 same ▸ fits
  | false => exact .pure good1 nofun

/-- A `while` loop runs as it should. -/
lemma execWhile_leads (h : inner.Regular R) (good : R.Good s) (condition : Expr)
    {body : List Stmt} (tidy : ∀ stmt ∈ body, stmt.Tidy R.names) (loc : Location)
    (passes : Nat) :
    R.Leads s.visible Failure.Calm FlowFitting s
      (execWhile inner condition body loc why passes s) := by
  induction passes generalizing s with
  | zero => exact .exhausted
  | succ passes ih =>
    refine .ask (.newScope (.bind good (.inBlock good _ passFitting_lasting
      (whilePass_leads h (good.inBlock _) condition tidy loc)) fun pass s1 good1 later fits => ?_))
    match pass with
    | none => exact .pure good1 trivial
    | some .normal =>
      rw [← later.visible good.orderly good1.orderly]
      exact ih good1
    | some (.returned result) => exact .pure good1 (fits _ rfl)

/-! ## Declarations -/

/-- A tidy function may be declared by a name that may be bound. -/
lemma execFunction_leads (good : R.Good s) {decl : Function} (allowed : R.names decl.name)
    (tidy : ∀ stmt ∈ decl.body, stmt.Tidy R.names) :
    R.Leads s.visible Failure.Calm Any s (execFunction decl why s) := by
  have defined := Leads.define (v := s.visible) (E := Failure.Calm) good
    ⟨decl.name, decl.params, decl.body, none, decl.loc⟩ ⟨tidy, nofun⟩ nofun nofun
  refine .bind good defined ?_
  rintro _ _ good1 later ⟨rfl, rfl⟩
  refine .ask ?_
  rw [← later.visible good.orderly good1.orderly]
  have kept : Value.Fits (s.withFunction ⟨decl.name, decl.params, decl.body, none, decl.loc⟩)
      (.functionRef s.functions.size) := by
    refine ⟨?_, ?_⟩
    · exact Nat.lt_of_lt_of_eq (Nat.lt_succ_self _) (Array.size_push ..).symm
    · exact congrArg FunctionDef.owner ((functionAt_withFunction ..).trans (if_pos rfl))
  have declared := declareHere_leads good1 allowed ⟨.functionRef s.functions.size, why⟩ kept
  exact declared.weaken fun _ _ _ => trivial

/-! ## What is shown -/

/-- Turning a value into the text to print runs as it should. -/
lemma printableText_leads (h : inner.Regular R) (good : R.Good s) {result : Justified}
    (fits : result.value.Fits s) :
    R.Leads [] Failure.Calm Any s (printableText inner result why s) := by
  refine .ask ?_
  cases s.textOf? result.value with
  | some found => exact .pure good trivial
  | none =>
    refine .ask ?_
    cases s.classOf? result.value with
    | none => exact .done good (.refl _ s) trivial
    | some id =>
      refine .bind good (callMethod_leads h good fits "toString" .nil)
        fun converted s1 good _ _ => ?_
      exact .done good (.refl _ s1) trivial

/-- Printing a value runs as it should. -/
lemma execPrint_leads (h : inner.Regular R) (good : R.Good s) (value : Expr) :
    R.Leads [] Failure.Calm Any s (execPrint inner value why s) := by
  refine .bind good (h.eval value why good) fun result s1 good _ fits => ?_
  refine .bind good (printableText_leads h good fits) fun shown s2 good _ _ => ?_
  exact .printLine good _

/-- Printing an explanation changes nothing that matters. -/
lemma printExplanation_leads (good : R.Good s) (id : ReasonId) (depth : Option Nat) :
    R.Leads v Failure.Calm Any s (printExplanation id depth s) := by
  refine .ask ?_
  cases s.explain id depth with
  | ok explanation => exact .printLine good _
  | error cause => exact .fail good nofun

/-- Requiring a number as the depth of an explanation changes nothing that matters. -/
lemma expectDepth_leads (good : R.Good s) (info : Justified) :
    R.Leads v Failure.Calm Any s (expectDepth info s) := by
  refine .ask ?_
  obtain _ | ⟨_ | number, _⟩ := s.numberOf? info.value
  · exact .ask (.because good nofun)
  · exact .ask (.because good nofun)
  · dsimp only
    split
    · exact .pure good trivial
    · exact .ask (.because good nofun)

/-! ## All statements -/

/-- A value that is returned fits. -/
lemma execReturn_leads (h : inner.Regular R) (good : R.Good s) (value : Expr) (loc : Location) :
    R.Leads [] Failure.Calm FlowFitting s (execReturn inner value loc why s) := by
  refine .bind good (h.eval value why good) fun result s1 good _ fits => ?_
  refine .ask (.bind good (.full good ..) fun returned s2 good later _ => ?_)
  exact .pure good (fits.grows later.grows)

/-- An `if` runs as it should. -/
lemma execIf_leads (h : inner.Regular R) (good : R.Good s) (condition : Expr)
    {thenBranch elseBranch : List Stmt}
    (tidy : ∀ stmt ∈ thenBranch ++ elseBranch, stmt.Tidy R.names) :
    R.Leads s.visible Failure.Calm FlowFitting s
      (execIf inner condition thenBranch elseBranch why s) := by
  obtain ⟨first, second⟩ := List.forall_mem_append.1 tidy
  refine .bind good (.widen (h.eval condition why good)) fun result s1 good1 later _ => ?_
  refine .bind good1 (expectCondition_leads good1 result condition) ?_
  rintro truth _ - - rfl
  rw [← later.visible good.orderly good1.orderly]
  cases truth with
  | true => exact runStatements_leads h good1 first
  | false => exact runStatements_leads h good1 second

/-- A statement that ends normally once its work is done. -/
lemma Leads.thenNormal (good : R.Good s) {work : Eval Unit}
    (h : R.Leads v Failure.Calm Any s (work s)) :
    R.Leads v Failure.Calm FlowFitting s ((do work; return .normal : Eval Flow) s) :=
  .bind good h fun _ _ good _ _ => .pure good trivial

/-- Every statement runs as it should if it binds what it may bind. -/
lemma execStmt_leads (h : inner.Regular R) (good : R.Good s) {stmt : Stmt}
    (tidy : stmt.Tidy R.names) :
    R.Leads s.visible Failure.Calm FlowFitting s (execStmt inner stmt why s) := by
  obtain ⟨own, -, inside⟩ := Stmt.everywhere_iff.1 tidy
  cases stmt with
  | ifElse loc condition thenBranch elseBranch => exact execIf_leads h good condition inside
  | forEach loc name values body => exact execForEach_leads h good own values inside
  | whileDo loc condition body => exact execWhile_leads h good condition inside loc _
  | declare loc name value =>
    rw [execStmt_declare]
    refine .thenNormal good (.bind good (makeVariable_leads good own) fun _ s1 good1 later _ => ?_)
    rw [← later.visible good.orderly good1.orderly]
    exact evalAndWrite_leads h good1 own value loc
  | assign loc name value =>
    rw [execStmt_assign]
    exact .thenNormal good (evalAndWrite_leads h good own value loc)
  | ret loc value => exact .widen (execReturn_leads h good value loc)
  | declareFunction loc decl => exact .thenNormal good (execFunction_leads good own inside)
  | declareClass loc decl => exact .thenNormal good (declareClass_leads good decl tidy.methods)
  | effect loc value =>
    exact .bind good (.widen (h.eval value why good)) fun _ _ good _ _ => .pure good trivial
  | setProperty loc owner property value =>
    exact .thenNormal good (.widen (execSetProperty_leads h good owner property value loc))
  | print loc value => exact .thenNormal good (.widen (execPrint_leads h good value))
  | fullExplain loc value =>
    refine .bind good (.widen (h.eval value why good)) fun result s1 good _ _ => ?_
    exact .thenNormal good (printExplanation_leads good _ _)
  | shortExplain loc value depth =>
    refine .bind good (.widen (h.eval value why good)) fun result s1 good _ _ => ?_
    refine .bind good (.widen (h.eval depth why good)) fun depthInfo s2 good _ _ => ?_
    refine .bind good (expectDepth_leads good depthInfo) fun depth s3 good _ _ => ?_
    exact .thenNormal good (printExplanation_leads good _ _)
  | raise loc message => exact .because good nofun
  | invokeNative loc method params => exact .widen (invokeNative_leads h good method params loc)

end Regime

end Because
