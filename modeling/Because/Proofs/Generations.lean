import Because.Proofs.Construction
import Because.Proofs.Declaration

/-!
# Calls of super along a line of classes

In a line of classes, each of which is derived from the one before it, some have a method `talk` of
their own. It prints the name of its class, and except in the topmost class it calls the method of
the parent, before that or after it. So the names are printed in the order of the line, whichever
classes are without such a method, as long as so many calls as there are methods may be in progress
at once.
-/

namespace Because

/-- A class of the line. -/
structure Generation where
  name : String
  /-- Whether the class has a method `talk` of its own. -/
  talks : Bool
  loc : Location

namespace Generation

/-- The class prints its name. -/
def prints (g : Generation) : Stmt := .print g.loc (.string g.loc g.name)

/-- The class has the classes above it talk. -/
def defers (g : Generation) : Stmt := .effect g.loc (.superCall g.loc "talk" [])

/-- The method of the class. There is nothing above the topmost one to call. -/
def talk (superFirst topmost : Bool) (g : Generation) : Function where
  name := "talk"
  params := [selfName]
  body := if topmost then [g.prints] else if superFirst then [g.defers, g.prints] else [g.prints, g.defers]
  loc := g.loc

/-- The class below a parent, which declares the method if the generation talks. -/
def declaration (superFirst : Bool) (parent : Option String) (g : Generation) : Class where
  name := g.name
  parent := parent
  fields := []
  methods := if g.talks then [g.talk superFirst parent.isNone] else []

/-- The declarations of a line of classes below a parent. -/
def declarations (superFirst : Bool) : Option String → List Generation → Program
  | _, [] => []
  | parent, g :: rest =>
    .declareClass g.loc (g.declaration superFirst parent) :: declarations superFirst g.name rest

/-- The program that has a new object of the last class of a line talk. -/
def program (superFirst : Bool) (first : Generation) (rest : List Generation) (loc : Location) :
    Program :=
  declarations superFirst none (first :: rest) ++
    [.effect loc (.methodCall loc (.new loc ((rest.map name).getLastD first.name) []) "talk" [])]

end Generation

namespace Session

variable {s s' now : Session} {superFirst : Bool} {id p c : ClassId} {f : FunctionId}
  {g : Generation} {gs : List Generation} {why : ReasonId} {steps count : Nat}
  {parent : Option String}

/-! ## Lines of classes -/

/-- The class has neither fields nor a constructor nor a built-in class above it. -/
structure Heir (s : Session) (id : ClassId) (parent : Option ClassId) : Prop where
  made : Nat.lt id s.classes.size
  parent : (s.classAt id).parent = parent
  fields : (s.classAt id).fields = []
  builtin : (s.classAt id).builtin = none
  native : (s.classAt id).nativeBase = none
  init : (s.classAt id).methods.get? initName = none

/-- The class is at the end of a line, in which these have methods of their own, the last one
first. -/
inductive Descent (superFirst : Bool) (s : Session) : ClassId → List Generation → Prop where
  | topmost {id : ClassId} {f : FunctionId} {g : Generation} :
    s.Heir id none → s.Overrides id (g.talk superFirst true) f → Descent superFirst s id [g]
  | silent {id p : ClassId} {gs : List Generation} :
    s.Heir id (some p) → (s.classAt id).methods = (s.classAt p).methods →
    Descent superFirst s p gs → Descent superFirst s id gs
  | talking {id p : ClassId} {f : FunctionId} {g : Generation} {gs : List Generation} :
    s.Heir id (some p) → s.Overrides id (g.talk superFirst false) f →
    Descent superFirst s p gs → Descent superFirst s id (g :: gs)

/-- A class stays an heir, whatever comes on top. -/
lemma Heir.enlarged {parent : Option ClassId} (h : s.Heir id parent) (enlarges : s.Enlarges s') :
    s'.Heir id parent := by
  obtain ⟨made, parent, fields, builtin, native, init⟩ := h
  rw [← enlarges.classAt id made] at parent fields builtin native init
  exact ⟨Nat.lt_of_lt_of_le made enlarges.classes, parent, fields, builtin, native, init⟩

namespace Descent

/-- The last class of a line has been made. -/
lemma made (h : Descent superFirst s id gs) : Nat.lt id s.classes.size := by
  cases h with
  | topmost heir | silent heir | talking heir => exact heir.made

/-- A line stays as it is when further classes are declared. -/
lemma enlarged (h : Descent superFirst s id gs) (enlarges : s.Enlarges s') :
    Descent superFirst s' id gs := by
  induction h with
  | topmost heir overrides =>
    exact .topmost (heir.enlarged enlarges) (overrides.enlarged heir.made enlarges)
  | silent heir same above ih =>
    refine .silent (heir.enlarged enlarges) ?_ ih
    rw [enlarges.classAt _ heir.made, enlarges.classAt _ above.made, same]
  | talking heir overrides _ ih =>
    exact .talking (heir.enlarged enlarges) (overrides.enlarged heir.made enlarges) ih

/-- The last class of a line is an heir. -/
lemma heir (h : Descent superFirst s id gs) : ∃ parent, s.Heir id parent := by
  cases h with
  | topmost heir | silent heir | talking heir => exact ⟨_, heir⟩

/-- Objects of the last class have no fields. -/
lemma fieldsOf (h : Descent superFirst s id gs) : s.FieldsOf id [] := by
  induction h with
  | topmost heir =>
    have fields := FieldsOf.topmost heir.parent
    rwa [heir.fields] at fields
  | silent heir _ _ ih | talking heir _ _ ih =>
    have fields := FieldsOf.derived heir.parent ih
    rwa [heir.fields, List.append_nil] at fields

end Descent

/-- A class that has been declared, with the method or without it, is an heir of its parent. -/
lemma Introduces.heir {above : Option ClassId}
    (h : s.Introduces (g.declaration superFirst parent) above why s')
    (inherits : ∀ p, above = some p → ∃ q, s.Heir p q) : s'.Heir s.classes.size above := by
  have table : ((above.map s.classAt).map ClassDef.methods |>.getD []).get? initName = none ∧
      (above.map s.classAt).bind ClassDef.nativeBase = none := by
    cases above with
    | none => exact ⟨rfl, rfl⟩
    | some p =>
      obtain ⟨q, heir⟩ := inherits p rfl
      exact ⟨heir.init, heir.native⟩
  refine ⟨Nat.lt_of_lt_of_eq (Nat.lt_succ_self _) h.classes.symm, ?_, ?_, ?_, ?_, ?_⟩
  · rw [h.new]
    rfl
  · rw [h.new]
    rfl
  · rw [h.new]
    rfl
  · rw [h.new]
    exact table.2
  · rw [h.new]
    cases talks : g.talks with
    | false =>
      simp only [madeClass, Generation.declaration, talks, Bool.false_eq_true, if_false]
      exact table.1
    | true =>
      simp only [madeClass, Generation.declaration, talks, if_true]
      have other : initName ≠ "talk" := by decide
      exact (Assoc.get?_insert ..).trans ((if_neg other).trans table.1)

/-- A class that has the method of its own overrides it. -/
lemma Introduces.overrides {above : Option ClassId}
    (h : s.Introduces (g.declaration superFirst parent) above why s') (talks : g.talks = true) :
    ∃ f, s'.Overrides s.classes.size (g.talk superFirst parent.isNone) f := by
  have methods : (g.declaration superFirst parent).methods = [g.talk superFirst parent.isNone] :=
    if_pos talks
  refine h.method ?_ ?_
  · rw [methods]
    exact List.nodup_singleton _
  · rw [methods]
    exact List.mem_singleton_self _

/-- A class that is declared below a line is the end of a longer one. -/
lemma Introduces.descent {name : String}
    (h : s.Introduces (g.declaration superFirst (some name)) (some p) why s')
    (above : Descent superFirst s p gs) :
    Descent superFirst s' s.classes.size (if g.talks then g :: gs else gs) := by
  have later := above.enlarged h.enlarges
  have heir : s'.Heir s.classes.size (some p) := h.heir fun q same => by
    cases same
    exact above.heir
  cases talks : g.talks with
  | true =>
    obtain ⟨f, overrides⟩ := h.overrides talks
    exact .talking heir overrides later
  | false =>
    refine .silent heir ?_ later
    rw [h.new, h.old p above.made]
    simp only [madeClass, Generation.declaration, talks, Bool.false_eq_true, if_false]
    rfl

section

variable {config : Config} {console : Console} {taken : List String} {name : String}

/-- A program declares a line of classes. -/
lemma Outside.declaresLine (h : s.Outside config taken console) (steps : Nat)
    (found : s.lookupClass? name = some p) (above : Descent superFirst s p gs)
    (rest : List Generation) (new : ∀ g ∈ rest, g.name ∉ taken)
    (distinct : (rest.map Generation.name).Nodup) (after : Program) :
    ∃ s' taken' id, s'.Outside config taken' console ∧
      s'.lookupClass? ((rest.map Generation.name).getLastD name) = some id ∧
      Descent superFirst s' id ((rest.filter Generation.talks).reverse ++ gs) ∧
      Because.runProgram (.within (steps + 1))
          (Generation.declarations superFirst (some name) rest ++ after) s =
        Because.runProgram (.within (steps + 1)) after s' := by
  induction rest generalizing s taken name p gs with
  | nil => exact ⟨s, taken, p, h, found, above, rfl⟩
  | cons g rest ih =>
    obtain ⟨fresh, others⟩ := List.forall_mem_cons.1 new
    obtain ⟨unlike, distinct⟩ := List.nodup_cons.1 distinct
    have finds : s.Finds (g.declaration superFirst (some name)) (some p) := congrArg some found
    have methods : ((g.declaration superFirst (some name)).methods.map FunctionDecl.name).Nodup := by
      simp only [Generation.declaration]
      split <;> simp
    obtain ⟨why, s1, outside, introduces, first⟩ := h.declaresClass steps fresh finds methods g.loc
      (Generation.declarations superFirst (some g.name) rest ++ after)
    have found1 : s1.lookupClass? g.name = some s.classes.size := introduces.lookupClass?
    have new1 (g' : Generation) (mem : g' ∈ rest) : g'.name ∉ g.name :: taken :=
      List.not_mem_cons_of_ne_of_not_mem
        (fun same => unlike (List.mem_map.2 ⟨g', mem, same⟩)) (others g' mem)
    obtain ⟨s', taken', id, outside', found', descent, remaining⟩ :=
      ih outside found1 (introduces.descent above) new1 distinct
    refine ⟨s', taken', id, outside', ?_, ?_, first.trans remaining⟩
    · rw [List.map_cons, List.getLastD_cons]
      exact found'
    · cases talks : g.talks <;> simpa [List.filter_cons, talks] using descent

end

/-! ## Talking -/

/-- There is room for so many more calls at once. -/
def HasRoom (s : Session) (count : Nat) : Prop :=
  ∀ m, s.calls.limit = some m → s.calls.depth + count ≤ m

/-- With room for one more call, the stack is not full. -/
lemma HasRoom.free (room : s.HasRoom (count + 1)) : s.calls.isFull = false := by
  rw [CallStack.isFull]
  cases limit : s.calls.limit with
  | none => rfl
  | some m =>
    have enough := room m limit
    exact decide_eq_false (by omega)

/-- With room for so many calls, these lines are printed, and besides that only reasons and objects
are made. Without it, the run fails because there is none. -/
structure Talks {α : Type} (s : Session) (count : Nat) (lines : List String)
    (P : α → Session → Prop) (o : Outcome Failure α) : Prop where
  done : s.HasRoom count → ∃ result s', o = .done result s' ∧ s.Adds s' ∧ s.SameStacks s' ∧
    s'.console = lines.foldl Console.printLine s.console ∧ P result s'
  fails : ∀ m, s.calls.limit = some m → s.calls.depth ≤ m → m < s.calls.depth + count →
    ∃ failure s', o = .failed failure s' ∧ s.SameStacks s' ∧ failure.fault = .recursionLimit m

/-- A statement does not return from the method. -/
abbrev GoesOn (flow : Flow) (_ : Session) : Prop := flow = .normal

/-- A call gives None. -/
abbrev GivesNone (result : Justified) (s : Session) : Prop :=
  result.value = .none ∧ Nat.lt result.why s.graph.size

section

variable {lines more : List String} {called : ReasonId} {target : Justified}

/-- It makes no difference which reasons and objects are made before. -/
lemma Talks.after {α : Type} {P : α → Session → Prop} {o : Outcome Failure α} (adds : s.Adds s')
    (quiet : s.Quiet s') (h : s'.Talks count lines P o) : s.Talks count lines P o where
  done room := by
    obtain ⟨result, s1, done, adds', same, console, holds⟩ := h.done fun m limit => by
      rw [quiet.calls] at limit ⊢
      exact room m limit
    exact ⟨result, s1, done, adds.trans adds', quiet.toSameStacks.trans same,
      console.trans (congrArg (lines.foldl Console.printLine) quiet.console), holds⟩
  fails m limit deep full := by
    obtain ⟨failure, s1, failed, same, fault⟩ := h.fails m (quiet.calls ▸ limit)
      (quiet.calls ▸ deep) (quiet.calls ▸ full)
    exact ⟨failure, s1, failed, quiet.toSameStacks.trans same, fault⟩

/-- An expression needs the room that the call needs which it makes. -/
lemma Talks.conveyed {call o : Outcome Failure Justified}
    (h : s.Talks count lines GivesNone call) (conveys : s.Conveys call o) :
    s.Talks count lines GivesNone o where
  done room := by
    obtain ⟨⟨_, w⟩, s1, done, adds, same, console, rfl, recorded⟩ := h.done room
    obtain ⟨w', s2, ends, tells, fresh⟩ := conveys.gives done adds.graph recorded
    have notes : s1.Notes s2 := tells.toNotes
    exact ⟨⟨.none, w'⟩, s2, ends, adds.trans (.of_notes notes),
      same.trans (Quiet.of_notes notes).toSameStacks,
      (Quiet.of_notes notes).console.trans console, rfl, fresh⟩
  fails m limit deep full := by
    obtain ⟨failure, s1, failed, same, fault⟩ := h.fails m limit deep full
    exact ⟨failure, s1, conveys.fails failed, same, fault⟩

/-- A statement needs the room that its expression needs. -/
lemma Talks.effect {expr : Expr} (h : s.Talks count lines GivesNone (Because.eval steps expr why s))
    (loc : Location) :
    s.Talks count lines GoesOn (Because.exec (steps + 1) (.effect loc expr) why s) := by
  change s.Talks count lines GoesOn
    ((Because.eval steps expr why >>= fun _ => pure Flow.normal : Eval Flow) s)
  constructor
  · intro room
    obtain ⟨result, s1, done, adds, same, console, -⟩ := h.done room
    exact ⟨.normal, s1, Action.bind_done done, adds, same, console, rfl⟩
  · intro m limit deep full
    obtain ⟨failure, s1, failed, same, fault⟩ := h.fails m limit deep full
    exact ⟨failure, s1, Action.bind_failed failed, same, fault⟩

/-- Two statements need as much room as the one that needs more. -/
lemma Talks.both {first second : Stmt} {other : Nat}
    (h : s.Talks count lines GoesOn (Because.exec steps first why s))
    (h' : ∀ s', s.Adds s' → s.SameStacks s' →
      s'.Talks other more GoesOn (Because.exec steps second why s')) :
    s.Talks (max count other) (lines ++ more) GoesOn
      (runStatements (.within steps) why [first, second] s) := by
  have runs {s1 : Session} (done : Because.exec steps first why s = .done .normal s1) :
      runStatements (.within steps) why [first, second] s =
        Because.exec steps second why s1 := by
    have done : (Inner.within steps).exec first why s = .done .normal s1 := done
    rw [runStatements, Action.bind_done done]
    exact congrFun (runStatements_one _ second) s1
  constructor
  · intro room
    obtain ⟨_, s1, done, adds, same, console, rfl⟩ := h.done fun m limit =>
      Nat.le_trans (Nat.add_le_add_left (Nat.le_max_left ..) _) (room m limit)
    obtain ⟨flow, s2, done', adds', same', console', goesOn⟩ :=
      (h' s1 adds same).done fun m limit => by
        rw [same.calls] at limit ⊢
        exact Nat.le_trans (Nat.add_le_add_left (Nat.le_max_right ..) _) (room m limit)
    refine ⟨flow, s2, (runs done).trans done', adds.trans adds', same.trans same', ?_, goesOn⟩
    rw [console', console, List.foldl_append]
  · intro m limit deep full
    by_cases early : m < s.calls.depth + count
    · obtain ⟨failure, s1, failed, same, fault⟩ := h.fails m limit deep early
      have failed : (Inner.within steps).exec first why s = .failed failure s1 := failed
      refine ⟨failure, s1, ?_, same, fault⟩
      rw [runStatements, Action.bind_failed failed]
    · have room : s.HasRoom count := fun m' limit' => by
        obtain rfl : m = m' := Option.some.inj (limit.symm.trans limit')
        exact Nat.le_of_not_lt early
      obtain ⟨_, s1, done, adds, same, -, rfl⟩ := h.done room
      obtain ⟨failure, s2, failed, same', fault⟩ := (h' s1 adds same).fails m
        (same.calls ▸ limit) (same.calls ▸ deep) (by rw [same.calls]; omega)
      exact ⟨failure, s2, (runs done).trans failed, same.trans same', fault⟩

/-- A class prints its name, which needs no call. -/
lemma Works.prints_talks (works : s.Works) (names : s.Names .string)
    (recorded : Nat.lt why s.graph.size) (g : Generation) :
    s.Talks 0 [g.name] GoesOn (Because.exec (steps + 3) g.prints why s) := by
  constructor
  · intro _
    obtain ⟨i, w, s1, given⟩ := works.string_evaluates names steps g.loc g.name why recorded
    obtain ⟨s', ends, adds, same, shows⟩ := given.print g.loc
    exact ⟨_, s', ends, given.adds.trans adds, same, shows, rfl⟩
  · intro m _ deep full
    exact absurd full (Nat.not_lt_of_le deep)

/-- A call of `super` gets to the method that is in the table of the parent of the class that
defines the running method. -/
lemma Apt.superCall_conveys (h : s.Apt) (recorded : Nat.lt why s.graph.size) (loc : Location)
    (method : String) (args : List Expr) {value : Value} (self : s.meaning? selfName = some value)
    (owner : s.calls.owner? = some c) (parent : (s.classAt c).parent = some p) (f : FunctionId) :
    ∃ read s1, s.Notes s1 ∧ Nat.lt read s1.graph.size ∧ ∀ steps {infos s2},
      evalArgs (.within steps) why args s1 = .done infos s2 → s1.graph.size ≤ s2.graph.size →
      s2.graph.Knows (reasons infos) → (s2.classAt p).methods.get? method = some f →
      ∃ context s3, s2.Notes s3 ∧ Nat.lt context s3.graph.size ∧
        s3.Conveys ((Inner.within steps).call f (⟨value, read⟩ :: infos) context s3)
          (Because.eval (steps + 1) (.superCall loc method args) why s) := by
  obtain ⟨stored, bound, rfl⟩ := Option.map_eq_some_iff.1 self
  have known : s.graph.Knows [why, stored.why] :=
    List.forall_mem_cons.2 ⟨recorded, List.forall_mem_singleton.2 (h.knows selfName stored bound)⟩
  obtain ⟨s1, notes1, fresh1, begins⟩ :=
    superCall_begins bound known owner parent loc method args f
  refine ⟨s.graph.size, s1, notes1, fresh1, fun steps {infos s2} evaluates grows given table => ?_⟩
  obtain ⟨s3, notes3, fresh3, calls⟩ := begins grows given table
  have caller : Nat.lt why s3.graph.size :=
    Nat.lt_of_lt_of_le recorded (Nat.le_trans (Nat.le_trans notes1.graph grows) notes3.graph)
  refine ⟨s2.graph.size, s3, notes3, fresh3, ?_⟩
  change s3.Conveys _ (evalExpr (.within steps) (.superCall loc method args) why s)
  rw [calls _ evaluates]
  exact conveys_tellResult _ caller

/-- A class that has the classes above it talk needs the room that they need. -/
lemma Apt.defers_talks (h : s.Apt) (recorded : Nat.lt why s.graph.size) {value : Value}
    (self : s.meaning? selfName = some value) (owner : s.calls.owner? = some c)
    (parent : (s.classAt c).parent = some p)
    (table : (s.classAt p).methods.get? "talk" = some f) (g : Generation)
    (calls : ∀ now target context, s.Adds now → now.calls = s.calls →
      now.graph.Knows [context, target.why] →
      now.Talks count lines GivesNone (Because.call steps f [target] context now)) :
    s.Talks count lines GoesOn (Because.exec (steps + 2) g.defers why s) := by
  obtain ⟨read, s1, notes1, fresh1, conveys⟩ :=
    h.superCall_conveys recorded g.loc "talk" [] self owner parent f
  have table1 : (s1.classAt p).methods.get? "talk" = some f := by
    rw [(Adds.of_notes notes1).classAt, table]
  obtain ⟨context, s2, notes2, fresh2, conveys⟩ :=
    conveys steps rfl (Nat.le_refl _) (List.forall_mem_nil _) table1
  have notes := notes1.trans notes2
  have same := Quiet.of_notes notes
  have known : s2.graph.Knows [context, read] := List.forall_mem_cons.2
    ⟨fresh2, List.forall_mem_singleton.2 (Nat.lt_of_lt_of_le fresh1 notes2.graph)⟩
  exact (((calls s2 ⟨value, read⟩ context (.of_notes notes) same.calls known).conveyed
    conveys).after (.of_notes notes) same).effect g.loc

/-- A call of a method whose body has no return needs room for itself and for what the body
calls. -/
lemma Works.call_talks {method : Function} (works : s.Works)
    (is : s.functionAt f = .ofMethod c method) (params : method.params = [selfName])
    (known : s.graph.Knows [why, target.why]) (steps : Nat)
    (body : ∀ now called, s.Begun (.ofMethod c method) [target] called now →
      now.Talks count lines GoesOn (runStatements (.within steps) called method.body now)) :
    s.Talks (count + 1) lines GivesNone (Because.call (steps + 1) f [target] why s) := by
  have counts : [target].length = (FunctionDef.ofMethod c method).params.length :=
    (congrArg List.length params).symm
  have distinct : (FunctionDef.ofMethod c method).params.Nodup := by
    change method.params.Nodup
    rw [params]
    exact List.pairwise_singleton ..
  constructor
  · intro room
    obtain ⟨called, now, begun, -, ends⟩ :=
      works.callFunction_begun is counts distinct room.free known
    have inside : now.HasRoom count := by
      intro m limit
      rw [begun.calls] at limit ⊢
      have enough := room m limit
      change s.calls.depth + 1 + count ≤ m
      omega
    obtain ⟨_, s1, done, adds, same, console, rfl⟩ := (body now called begun).done inside
    obtain ⟨w, s2, gives, tells, fresh⟩ := (ends (.within steps)).gives done same .falls
    have notes : (s.afterCall s1).Notes s2 := tells.toNotes
    have left : s1.Adds (s.afterCall s1) := { Adds.refl s1 with }
    refine ⟨⟨.none, w⟩, s2, gives, ((begun.adds.trans adds).trans left).trans (.of_notes notes), ?_,
      ?_, rfl, fresh⟩
    · have balanced : s.SameStacks (s.afterCall s1) := ⟨rfl, rfl⟩
      exact balanced.trans (Quiet.of_notes notes).toSameStacks
    · rw [(Quiet.of_notes notes).console, ← begun.console, ← console]
      rfl
  · intro m limit deep full
    change ∃ failure s', Because.callFunction (.within steps) f [target] why s =
      .failed failure s' ∧ s.SameStacks s' ∧ failure.fault = .recursionLimit m
    -- Either there is no room for the call itself, or the body is one call deeper and runs out of
    -- room.
    by_cases none : m ≤ s.calls.depth
    · have isFull : s.calls.isFull = true := by
        simp only [CallStack.isFull, limit, decide_eq_true none]
      refine ⟨.because (.recursionLimit m) why, s, ?_, .refl s, rfl⟩
      rw [Comparison.callFunction_eq, is, if_pos counts, Action.inCall_full isFull, limit]
      rfl
    · have isFree : s.calls.isFull = false := by
        simp only [CallStack.isFull, limit, decide_eq_false none]
      obtain ⟨called, now, begun, -, ends⟩ :=
        works.callFunction_begun is counts distinct isFree known
      have limit' : now.calls.limit = some m := by
        rw [begun.calls]
        exact limit
      have depth : now.calls.depth = s.calls.depth + 1 := by
        rw [begun.calls]
        rfl
      obtain ⟨failure, s1, failed, same, fault⟩ :=
        (body now called begun).fails m limit' (by omega) (by omega)
      obtain ⟨calls, fails⟩ := (ends (.within steps)).fails failed same
      exact ⟨_, _, fails, ⟨rfl, rfl⟩, (calls.attach_fault failure).trans fault⟩

/-- In the body of a function, expressions can be evaluated. -/
lemma Begun.apt {function : FunctionDef} {args : List Justified}
    (begun : s.Begun function args called now) (works : s.Works) : now.Apt where
  toWorks := begun.adds.works works
  knows := begun.knows
  seen := begun.seen

/-- The body of a method that has classes above it. -/
lemma Works.body_talks (works : s.Works) (names : s.Names .string) {method : Function}
    (begun : s.Begun (.ofMethod id method) [target] called now) (params : method.params = [selfName])
    (parent : (s.classAt id).parent = some p)
    (table : (s.classAt p).methods.get? "talk" = some f) (g : Generation) (superFirst : Bool)
    (calls : ∀ now target context, s.Adds now → now.graph.Knows [context, target.why] →
      now.Talks count lines GivesNone (Because.call (steps + 1) f [target] context now)) :
    now.Talks count (if superFirst then lines ++ [g.name] else g.name :: lines) GoesOn
      (runStatements (.within (steps + 3)) called (g.talk superFirst false).body now) := by
  have apt := begun.apt works
  have printing {t : Session} (adds : now.Adds t) :
      t.Talks 0 [g.name] GoesOn (Because.exec (steps + 3) g.prints called t) :=
    ((begun.adds.trans adds).works works).prints_talks
      ((begun.adds.trans adds).names works names)
      (Nat.lt_of_lt_of_le begun.recorded adds.graph) g
  have self : now.meaning? selfName = some target.value := by
    have bound := begun.bound
    change List.Forall₂ _ method.params [target] at bound
    rw [params] at bound
    obtain ⟨found, -⟩ := List.forall₂_cons.1 bound
    rw [meaning?, found]
    rfl
  have deferring {t : Session} (adds : now.Adds t) (same : now.SameStacks t) :
      t.Talks count lines GoesOn (Because.exec (steps + 3) g.defers called t) := by
    have all := begun.adds.trans adds
    have means : t.meaning? selfName = some target.value :=
      (apt.meaning? adds.unaltered same fun _ _ none => none).trans self
    have owner : t.calls.owner? = some id := by
      rw [same.calls, begun.calls]
      rfl
    exact (apt.after adds same).defers_talks (Nat.lt_of_lt_of_le begun.recorded adds.graph) means
      owner ((congrArg ClassDef.parent (all.classAt id)).trans parent)
      ((congrArg (·.methods.get? "talk") (all.classAt p)).trans table) g
      fun later target context adds' _ known => calls later target context (all.trans adds') known
  cases superFirst with
  | true =>
    have talks := (deferring (.refl now) (.refl now)).both fun s1 adds _ => printing adds
    rw [Nat.max_zero] at talks
    exact talks
  | false =>
    have talks := (printing (.refl now)).both fun s1 adds same => deferring adds same
    rw [Nat.zero_max] at talks
    exact talks

/-- The last class of a line prints the names of those that have the method, itself first, or in the
reverse order if they call the method of the parent first. -/
lemma Descent.talks (h : Descent superFirst s id gs) (works : s.Works) (names : s.Names .string) :
    ∃ f, (s.classAt id).methods.get? "talk" = some f ∧ ∀ steps now target context, s.Adds now →
      now.graph.Knows [context, target.why] →
      now.Talks gs.length
        (if superFirst then (gs.map Generation.name).reverse else gs.map Generation.name) GivesNone
        (Because.call (steps + 3 * gs.length + 1) f [target] context now) := by
  induction h with
  | @topmost id f g heir overrides =>
    refine ⟨f, overrides.table, fun steps now target context adds known => ?_⟩
    have is : now.functionAt f = .ofMethod id (g.talk superFirst true) :=
      (adds.functionAt f).trans overrides.function
    have talks := (adds.works works).call_talks is rfl known (steps + 3) fun body called begun => by
      rw [Generation.talk, if_pos rfl, runStatements_one]
      exact (begun.adds.works (adds.works works)).prints_talks
        (begun.adds.names (adds.works works) (adds.names works names)) begun.recorded g
    cases superFirst <;> exact talks
  | silent heir same above ih =>
    obtain ⟨f, table, talks⟩ := ih
    exact ⟨f, by rw [same, table], talks⟩
  | @talking id p f g gs heir overrides above ih =>
    obtain ⟨f', table', talks'⟩ := ih
    refine ⟨f, overrides.table, fun steps now target context adds known => ?_⟩
    have is : now.functionAt f = .ofMethod id (g.talk superFirst false) :=
      (adds.functionAt f).trans overrides.function
    have works' := adds.works works
    have talks := works'.call_talks is rfl known (steps + 3 * gs.length + 3) fun body called begun =>
      works'.body_talks (adds.names works names) begun rfl
        ((congrArg ClassDef.parent (adds.classAt id)).trans heir.parent)
        ((congrArg (·.methods.get? "talk") (adds.classAt p)).trans table') g superFirst
        fun later target context adds' known => talks' steps later target context
          (adds.trans adds') known
    have enough : steps + 3 * (g :: gs).length + 1 = steps + 3 * gs.length + 3 + 1 := by
      rw [List.length_cons]
      omega
    rw [enough]
    cases superFirst with
    | true => simpa using talks
    | false => simpa using talks

end

/-! ## The program -/

/-- An object of the last class of a line is made, for which nothing is called. -/
lemma Descent.new_evaluates (h : Descent superFirst s id gs) (inOrder : s.InOrder) {name : String}
    (found : s.lookupClass? name = some id) (steps : Nat) (loc : Location) :
    s.Evaluates (steps + 1) (.new loc name []) fun value s' => s'.classOf? value = some id := by
  intro why recorded
  obtain ⟨parent, heir⟩ := h.heir
  have nothing : evalArgs (.within steps) why [] s = .done [] s := rfl
  obtain ⟨s1, records, begins⟩ := evalNew_runs nothing (List.forall_mem_singleton.2 recorded) name
  have notes : s.Notes s1 := records.toNotes
  have adds := Adds.of_notes notes
  have user : (s1.classAt id).builtin = none := by rw [adds.classAt, heir.builtin]
  have init : (s1.classAt id).methods.get? initName = none := by rw [adds.classAt, heir.init]
  have native : s1.nativeBuiltin? id = none := by
    rw [nativeBuiltin?, adds.classAt, heir.native, Option.bind_none]
  have found1 : s1.lookupClass? name = some id := by
    rw [adds.lookupClass? inOrder.global.made, found]
  have fields : s1.allFields id = [] :=
    ((notes.inOrder inOrder).rooted.fieldsOf id).unique (h.enlarged adds.enlarges).fieldsOf
  have distinct : (s1.allFields id ++ [classField]).Nodup := by
    rw [fields]
    exact List.pairwise_singleton ..
  let made := s1.furnished name id none
  have adds1 : s1.Adds made := furnished_adds name id none
  -- No class of the line has an `init`, and none descends from a built-in class, so that the
  -- constructor has nothing to run.
  have constructs : runConstructor (.within steps) s1.scopes.size id [] false s.graph.size made =
      .done () made := by
    have same : made.classAt id = s1.classAt id := rfl
    simp only [runConstructor, Bind.bind, Action.ask, same, init]
    rfl
  have known : made.graph.Knows (s.graph.size :: reasons []) :=
    List.forall_mem_singleton.2 (Nat.lt_of_lt_of_le records.fresh adds1.graph)
  obtain ⟨s2, records2, describes⟩ := describeNew_records s1.scopes.size name known
  have notes2 : made.Notes s2 := records2.toNotes
  have later := adds1.trans (.of_notes notes2)
  have quiet : s1.Quiet made := ⟨⟨rfl, rfl⟩, rfl⟩
  refine ⟨s1.scopes.size, made.graph.size, s2, ?_, adds.trans later,
    (Quiet.of_notes notes).trans (quiet.trans (.of_notes notes2)), records2.fresh, ?_⟩
  · have takes : s1.Takes id [] none := .plain native
    have ready := newObject_ready found1 user s.graph.size (.within steps) takes distinct
    rw [native] at ready
    change Because.evalNew (.within steps) name [] why s = _
    rw [begins, ready]
    exact (Action.bind_done constructs).trans describes
  · refine (Adds.of_notes notes2).classOf? ?_
    exact congrArg (Option.map ObjectTag.classId) (congrArg Scope.tag Regime.scopeAt_withObject)

/-- A new object of the last class of a line talks. -/
lemma Descent.object_talks (h : Descent superFirst s id gs) (healthy : s.Healthy)
    (names : s.Names .string) {name : String} (found : s.lookupClass? name = some id)
    (recorded : Nat.lt why s.graph.size) (steps : Nat) (loc : Location) :
    s.Talks gs.length
      (if superFirst then (gs.map Generation.name).reverse else gs.map Generation.name) GoesOn
      (Because.exec (steps + 3 * gs.length + 3)
        (.effect loc (.methodCall loc (.new loc name []) "talk" [])) why s) := by
  obtain ⟨f, table, talks⟩ := h.talks healthy.works names
  obtain ⟨i, w, s1, given⟩ :=
    h.new_evaluates healthy.inOrder found (steps + 3 * gs.length) loc why recorded
  obtain ⟨t, s2, served, chosen, conveys⟩ := methodCall_conveys loc "talk" [] f recorded given.done
    given.adds.graph given.recorded given.holds
  have notes2 : s1.Notes s2 := served.toNotes.trans chosen.toNotes
  have adds2 := given.adds.trans (.of_notes notes2)
  have table2 : (s2.classAt id).methods.get? "talk" = some f := by rw [adds2.classAt, table]
  obtain ⟨s3, records3, conveys⟩ := conveys rfl (Nat.le_refl _) (List.forall_mem_nil _) table2
  have notes := notes2.trans records3.toNotes
  have adds := given.adds.trans (.of_notes notes)
  have known : s3.graph.Knows [s2.graph.size, w] := List.forall_mem_cons.2
    ⟨records3.fresh, List.forall_mem_singleton.2 (Nat.lt_of_lt_of_le given.recorded notes.graph)⟩
  exact (((talks steps s3 ⟨.object i, w⟩ s2.graph.size adds known).conveyed conveys).after adds
    (given.quiet.trans (.of_notes notes))).effect loc

/-- A program ends with its last statement. -/
lemma Healthy.last_talks {lines : List String} {stmt : Stmt} (h : s.Healthy)
    (talks : ∀ now why, now.Healthy → s.Adds now → Nat.lt why now.graph.size →
      now.Talks count lines GoesOn (Because.exec steps stmt why now)) :
    s.Talks count lines (fun _ _ => True) (Because.runProgram (.within steps) [stmt] s) := by
  let now : Session :=
    { s with graph := s.graph.push (.text s!"{stmt.text} is in my program") [] none }
  have notes : s.Notes now := .leaf trivial
  have told : (Action.text s!"{stmt.text} is in my program" : Eval ReasonId) s =
      .done s.graph.size now := rfl
  have talks := talks now s.graph.size (h.text _) (.of_notes notes)
    (Nat.lt_of_lt_of_eq (Nat.lt_succ_self _) (Graph.size_push ..).symm)
  refine Talks.after (.of_notes notes) (.of_notes notes) ?_
  rw [Because.runProgram, Action.bind_done told]
  constructor
  · intro room
    obtain ⟨_, s', done, adds, same, console, rfl⟩ := talks.done room
    have done : (Inner.within steps).exec stmt s.graph.size now = .done .normal s' := done
    exact ⟨(), s', Action.bind_done done, adds, same, console, trivial⟩
  · intro m limit deep full
    obtain ⟨failure, s', failed, same, fault⟩ := talks.fails m limit deep full
    have failed : (Inner.within steps).exec stmt s.graph.size now = .failed failure s' := failed
    exact ⟨failure, s', Action.bind_failed failed, same, fault⟩

/-- The topmost class of a line is declared. -/
lemma Outside.declaresTopmost {config : Config} {console : Console} {taken : List String}
    (h : s.Outside config taken console) (superFirst : Bool) (steps : Nat) (talks : g.talks = true)
    (new : g.name ∉ taken) (rest : Program) :
    ∃ s' id, s'.Outside config (g.name :: taken) console ∧ s'.lookupClass? g.name = some id ∧
      Descent superFirst s' id [g] ∧
      Because.runProgram (.within (steps + 1))
          (.declareClass g.loc (g.declaration superFirst none) :: rest) s =
        Because.runProgram (.within (steps + 1)) rest s' := by
  have methods : ((g.declaration superFirst none).methods.map FunctionDecl.name).Nodup := by
    simp only [Generation.declaration]
    split <;> simp
  have finds : s.Finds (g.declaration superFirst none) none := rfl
  obtain ⟨why, s', outside, introduces, runs⟩ :=
    h.declaresClass steps new finds methods g.loc rest
  have heir : s'.Heir s.classes.size none := introduces.heir (by rintro _ ⟨⟩)
  obtain ⟨f, overrides⟩ := introduces.overrides talks
  exact ⟨s', s.classes.size, outside, introduces.lookupClass?, .topmost heir overrides, runs⟩

end Session

/-- In a line of classes that a new session gets, the topmost one and any others of them have the
method. A new object of the last class prints the names of those that have it, each on a line of its
own: from the last one up, or from the topmost one down if each of them calls the method of its
parent first. There has to be room for so many calls at once as there are such classes; with less
room the program fails because the limit is reached. -/
theorem Generation.program_talks (superFirst : Bool) (first : Generation) (rest : List Generation)
    (talks : first.talks = true) (distinct : ((first :: rest).map Generation.name).Nodup)
    (fresh : ∀ g ∈ first :: rest, ∀ builtin : Builtin, builtin.name ≠ g.name)
    (config : Config) (console : Console) (loc : Location) (steps : Nat) :
    let names := ((first :: rest).filter Generation.talks).map Generation.name
    let run := Because.runProgram (.within (steps + 3 * names.length + 3))
      (Generation.program superFirst first rest loc) (Session.start config console)
    ((∀ limit, config.maxDepth = some limit → names.length ≤ limit) → ∃ s', run = .done () s' ∧
      s'.console =
        (if superFirst then names else names.reverse).foldl Console.printLine console) ∧
    ∀ limit, config.maxDepth = some limit → limit < names.length →
      ∃ failure s', run = .failed failure s' ∧ failure.fault = .recursionLimit limit := by
  intro names run
  have new (g : Generation) (mem : g ∈ first :: rest) :
      g.name ∉ Builtin.all.map Builtin.name := by
    rintro known
    obtain ⟨builtin, -, same⟩ := List.mem_map.1 known
    exact fresh g mem builtin same
  obtain ⟨unlike, distinct⟩ := List.nodup_cons.1 distinct
  obtain ⟨newFirst, newRest⟩ := List.forall_mem_cons.1 new
  -- The topmost class is declared first, as it has no parent; then the line below it.
  let last : Stmt :=
    .effect loc (.methodCall loc (.new loc ((rest.map name).getLastD first.name) []) "talk" [])
  obtain ⟨s1, p, top1, found1, above, runs1⟩ :=
    (Session.start_outside config console).declaresTopmost superFirst
      (steps + 3 * names.length + 2) talks newFirst
      (declarations superFirst (some first.name) rest ++ [last])
  have new1 (g : Generation) (mem : g ∈ rest) :
      g.name ∉ first.name :: Builtin.all.map Builtin.name :=
    List.not_mem_cons_of_ne_of_not_mem (fun same => unlike (List.mem_map.2 ⟨g, mem, same⟩))
      (newRest g mem)
  obtain ⟨s2, taken, id, top2, found2, descent, runs2⟩ :=
    top1.declaresLine (steps + 3 * names.length + 2) found1 above rest new1 distinct [last]
  -- The line of declared classes is the list of generations from its end, without the silent ones.
  have heard : (rest.filter Generation.talks).reverse ++ [first] =
      ((first :: rest).filter Generation.talks).reverse := by
    simp [talks]
  have count : ((rest.filter Generation.talks).reverse ++ [first]).length = names.length := by
    rw [heard, List.length_reverse, List.length_map]
  have shown : ((rest.filter Generation.talks).reverse ++ [first]).map Generation.name =
      names.reverse := by
    rw [heard, List.map_reverse]
  have outcome := top2.toHealthy.last_talks fun now why healthy adds recorded =>
    (descent.enlarged adds.enlarges).object_talks healthy (adds.names top2.works (top2.names .string))
      ((adds.lookupClass? top2.works.made _).trans found2) recorded steps loc
  rw [count, shown, List.reverse_reverse] at outcome
  have runs : run = _ := runs1.trans runs2
  rw [runs]
  have limited {limit : Nat} (is : config.maxDepth = some limit) :
      s2.calls.limit = some limit := by
    rw [top2.calls]
    exact is
  have depth : s2.calls.depth = 0 := by
    rw [top2.calls]
    rfl
  constructor
  · intro room
    have room : s2.HasRoom names.length := fun limit is => by
      rw [top2.calls] at is
      rw [depth, Nat.zero_add]
      exact room limit is
    obtain ⟨_, s', done, -, -, shows, -⟩ := outcome.done room
    refine ⟨s', done, ?_⟩
    rw [shows, top2.shows]
  · intro limit is full
    obtain ⟨failure, s', failed, -, fault⟩ := outcome.fails limit (limited is)
      (depth ▸ Nat.zero_le _) (by omega)
    exact ⟨failure, s', failed, fault⟩

/-- A line of three classes, of which the second one has no method of its own. -/
def Generation.family : Generation × List Generation :=
  (⟨"Grandparent", true, .builtin⟩, [⟨"Parent", false, .builtin⟩, ⟨"Child", true, .builtin⟩])

/-- Two names are printed, in either order; and if no more than one call may be in progress at once,
the program fails. -/
theorem Generation.program_talks_of_family :
    Generation.family.1.talks = true ∧
    ((Generation.family.1 :: Generation.family.2).map Generation.name).Nodup ∧
    (∀ g ∈ Generation.family.1 :: Generation.family.2, ∀ builtin : Builtin,
      builtin.name ≠ g.name) ∧
    (∃ s', Because.runProgram (.within 9)
        (Generation.program false Generation.family.1 Generation.family.2 .builtin)
        (Session.start {} {}) = .done () s' ∧ s'.console.printed = "Child\nGrandparent\n") ∧
    (∃ s', Because.runProgram (.within 9)
        (Generation.program true Generation.family.1 Generation.family.2 .builtin)
        (Session.start {} {}) = .done () s' ∧ s'.console.printed = "Grandparent\nChild\n") ∧
    ∃ failure s', Because.runProgram (.within 9)
        (Generation.program false Generation.family.1 Generation.family.2 .builtin)
        (Session.start { maxDepth := some 1 } {}) = .failed failure s' ∧
      failure.fault = .recursionLimit 1 := by
  have talks : Generation.family.1.talks = true := rfl
  have distinct : ((Generation.family.1 :: Generation.family.2).map Generation.name).Nodup := by
    decide
  have fresh : ∀ g ∈ Generation.family.1 :: Generation.family.2, ∀ builtin : Builtin,
      builtin.name ≠ g.name := by
    have apart : ∀ g ∈ Generation.family.1 :: Generation.family.2, ∀ builtin ∈ Builtin.all,
        builtin.name ≠ g.name := by
      decide
    exact fun g mem builtin => apart g mem builtin (by cases builtin <;> decide)
  have room (limit : Nat) (is : some 2000 = some limit) : 2 ≤ limit := by
    cases is
    decide
  refine ⟨talks, distinct, fresh, ?_, ?_, ?_⟩
  · obtain ⟨s', done, shows⟩ :=
      (program_talks false _ _ talks distinct fresh {} {} .builtin 0).1 room
    refine ⟨s', done, ?_⟩
    rw [shows]
    rfl
  · obtain ⟨s', done, shows⟩ :=
      (program_talks true _ _ talks distinct fresh {} {} .builtin 0).1 room
    refine ⟨s', done, ?_⟩
    rw [shows]
    rfl
  · exact (program_talks false _ _ talks distinct fresh { maxDepth := some 1 } {} .builtin 0).2 1
      rfl (by decide)

end Because
