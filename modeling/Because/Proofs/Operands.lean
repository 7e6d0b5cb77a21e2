import Because.Proofs.Everywhere
import Because.Proofs.Explained
import Mathlib.Logic.Relation

/-!
# What computed values rest on

The reason of a value that an expression computes from others rests on the reasons of these, by a
chain of supporters: for properties, new objects, comparisons, derived truth values, sums, texts
with a reason's number, and ranges. A number that is read from a text is the exception. It rests on
an unknown reason, and why the text is what it is cannot be found out from it.
-/

namespace Because

/-! ## Chains of supporters -/

namespace Graph

/-- The reason is there, and these are its supporters. -/
def RestsDirectly (g : Graph) (id : ReasonId) (supporters : List ReasonId) : Prop :=
  ∃ node, g.nodes[id]? = some node ∧ node.supporters = supporters

/-- The second reason supports the first one. -/
def Supports (g : Graph) (id supporter : ReasonId) : Prop :=
  ∃ node, g.nodes[id]? = some node ∧ supporter ∈ node.supporters

/-- A chain of supporters leads from the first reason to the second one. -/
def RestsOn (g : Graph) : ReasonId → ReasonId → Prop := Relation.TransGen g.Supports

variable {g g' : Graph} {id supporter : ReasonId} {supporters : List ReasonId}

/-- A reason rests directly on what is written down as its supporters. -/
lemma restsDirectly_iff :
    g.RestsDirectly id supporters ↔ g.nodes[id]?.map Node.supporters = some supporters :=
  Option.map_eq_some_iff.symm

/-- What a reason rests on directly are its supporters. -/
lemma RestsDirectly.supports_iff (h : g.RestsDirectly id supporters) :
    g.Supports id supporter ↔ supporter ∈ supporters := by
  obtain ⟨node, found, rfl⟩ := h
  constructor
  · rintro ⟨other, found', mem⟩
    cases found.symm.trans found'
    exact mem
  · exact fun mem => ⟨node, found, mem⟩

/-- A reason rests on each of its supporters. -/
lemma RestsDirectly.restsOn (h : g.RestsDirectly id supporters) (mem : supporter ∈ supporters) :
    g.RestsOn id supporter :=
  .single (h.supports_iff.2 mem)

/-- A reason keeps its supporters as long as reasons are kept. -/
lemma RestsDirectly.keeps (h : g.RestsDirectly id supporters) (keeps : g.Keeps g') :
    g'.RestsDirectly id supporters := by
  obtain ⟨node, found, rfl⟩ := h
  obtain ⟨shown, found⟩ := keeps id node found
  exact ⟨_, found, rfl⟩

/-- What a reason rests on is one of its supporters, or what one of them rests on. -/
lemma RestsDirectly.restsOn_iff (h : g.RestsDirectly id supporters) {other : ReasonId} :
    g.RestsOn id other ↔
      ∃ supporter ∈ supporters, other = supporter ∨ g.RestsOn supporter other := by
  constructor
  · intro rests
    obtain ⟨supporter, first, rest⟩ := Relation.TransGen.head'_iff.1 rests
    exact ⟨supporter, h.supports_iff.1 first, Relation.reflTransGen_iff_eq_or_transGen.1 rest⟩
  · rintro ⟨supporter, mem, rest⟩
    exact Relation.TransGen.head' (h.supports_iff.2 mem)
      (Relation.reflTransGen_iff_eq_or_transGen.2 rest)

end Graph

/-! ## What actions leave behind -/

section

variable {ε α β : Type} {s s' : Session}

/-- Recording a reason loses nothing, and neither does hiding one. -/
lemma record_alike (kind : Kind) (supporters : List ReasonId) (location : Option Location)
    {calls : CallStack} : Action.Alike SameReasoned calls
      (Action.record kind supporters location) (Action.record kind supporters location) :=
  .record kind supporters location

/-- Hiding a reason ends like itself, and fails with a reason if it fails. -/
lemma hide_alike (id : ReasonId) {calls : CallStack} :
    Action.Alike SameReasoned calls (Action.hide id) (Action.hide id) :=
  .hide id

/-- What ends like itself keeps the reasons that were there. -/
lemma Action.Alike.keeps {tells : ε → ε → Prop} {a b : Action ε α} {x : α}
    (h : Action.Alike tells s.calls a b) (done : a s = .done x s') : s.Keeps s' :=
  (h s rfl).keeps done

/-- A reason that has been recorded rests on its supporters. -/
lemma Action.record_done {kind : Kind} {supporters : List ReasonId} {location : Option Location}
    {id : ReasonId} (done : Action.record kind supporters location s = .done id s') :
    s'.graph.RestsDirectly id supporters := by
  simp only [Action.record, Graph.add] at done
  split at done
  · rename_i added
    split at added
    · cases added
    · cases added
      cases done
      exact ⟨_, Array.getElem?_push_size, rfl⟩
  · cases done

end

/-! ## What expressions leave behind -/

variable {inner : Inner} {steps : Nat} {s s' : Session} {why : ReasonId} {result : Justified}

/-- A new object rests on the reason for its making and on those of its arguments. -/
lemma describeNew_done {object : ScopeId} {className : String} {args : List Justified}
    (done : describeNew object className args why s = .done result s') :
    s'.graph.RestsDirectly result.why (why :: reasons args) := by
  obtain ⟨given, s1, -, done⟩ := Action.done_of_bind done
  obtain ⟨made, s2, recorded, done⟩ := Action.done_of_bind done
  cases done
  exact Action.record_done recorded

/-- A new object rests on why it was made and on the arguments. -/
lemma newObject_done {className : String} {args : List Justified}
    (done : newObject inner className args why s = .done result s') :
    s'.graph.RestsDirectly result.why (why :: reasons args) := by
  obtain ⟨found, s1, -, done⟩ := Action.done_of_bind done
  cases found with
  | none => cases done
  | some id =>
    obtain ⟨number, s2, -, done⟩ := Action.done_of_bind done
    obtain ⟨current, s3, -, done⟩ := Action.done_of_bind done
    obtain ⟨object, s4, -, done⟩ := Action.done_of_bind done
    obtain ⟨_, s5, -, done⟩ := Action.done_of_bind done
    obtain ⟨builtin, s6, -, done⟩ := Action.done_of_bind done
    obtain ⟨_, s7, -, done⟩ := Action.done_of_bind done
    obtain ⟨classDef, s8, -, done⟩ := Action.done_of_bind done
    dsimp only at done
    split at done
    · obtain ⟨_, s9, -, done⟩ := Action.done_of_bind done
      exact describeNew_done done
    · obtain ⟨_, s9, -, done⟩ := Action.done_of_bind done
      exact describeNew_done done

/-- An object whose reason is hidden rests on the same reasons. -/
lemma newHiddenObject_done {className : String} {args : List Justified}
    (done : newHiddenObject inner className args why s = .done result s') :
    s'.graph.RestsDirectly result.why (why :: reasons args) := by
  obtain ⟨made, s1, makes, done⟩ := Action.done_of_bind done
  obtain ⟨_, s2, hides, done⟩ := Action.done_of_bind done
  have keeps := (hide_alike made.why).keeps hides
  cases done
  exact (newObject_done makes).keeps keeps.graph

/-- A truth value that is derived from an operand rests on it. -/
lemma derivedTruth_done {expr : Expr} {truth : Bool} {operand : Justified}
    (done : derivedTruth inner expr truth operand why s = .done result s') :
    s'.graph.RestsOn result.why operand.why := by
  obtain ⟨made, s1, -, done⟩ := Action.done_of_bind done
  obtain ⟨rendered, s2, -, done⟩ := Action.done_of_bind done
  obtain ⟨derived, s3, recorded, done⟩ := Action.done_of_bind done
  cases done
  exact (Action.record_done recorded).restsOn (by simp)

/-- What a property has been read from is what its value rests on. -/
lemma evalProperty_done {owner : Expr} {property : String} {loc : Location}
    (done : evalProperty inner owner property loc why s = .done result s') :
    ∃ info s1, inner.eval owner why s = .done info s1 ∧
      s'.graph.RestsOn result.why info.why := by
  obtain ⟨info, s1, first, done⟩ := Action.done_of_bind done
  refine ⟨info, s1, first, ?_⟩
  obtain ⟨rendered, s2, -, done⟩ := Action.done_of_bind done
  obtain ⟨value, infoWhy⟩ := info
  cases value with
  | object scope =>
    obtain ⟨found, s3, -, done⟩ := Action.done_of_bind done
    cases found with
    | error fault => cases done
    | ok stored =>
      obtain ⟨value, s4, -, done⟩ := Action.done_of_bind done
      obtain ⟨read, s5, recorded, done⟩ := Action.done_of_bind done
      cases done
      exact (Action.record_done recorded).restsOn (by simp)
  | _ => cases done

/-- The reason of a value is among those of the values. -/
lemma mem_reasons {infos : List Justified} {info : Justified} (mem : info ∈ infos) :
    info.why ∈ reasons infos :=
  List.mem_map_of_mem mem

/-- A new object rests on the reasons of the arguments. -/
lemma evalNew_done {className : String} {args : List Expr}
    (done : evalNew inner className args why s = .done result s') :
    ∃ infos s1, evalArgs inner why args s = .done infos s1 ∧
      ∀ info ∈ infos, s'.graph.RestsOn result.why info.why := by
  obtain ⟨infos, s1, first, done⟩ := Action.done_of_bind done
  refine ⟨infos, s1, first, fun info mem => ?_⟩
  obtain ⟨given, s2, -, done⟩ := Action.done_of_bind done
  obtain ⟨context, s3, -, done⟩ := Action.done_of_bind done
  exact (newObject_done done).restsOn (List.mem_cons_of_mem _ (mem_reasons mem))

/-- A sum rests on the reasons of the operands. -/
lemma evalPlus_done {expr : Expr} {operands : List Expr}
    (done : evalPlus inner expr operands why s = .done result s') :
    ∃ infos s1, evalArgs inner why operands s = .done infos s1 ∧
      ∀ info ∈ infos, s'.graph.RestsOn result.why info.why := by
  obtain ⟨infos, s1, first, done⟩ := Action.done_of_bind done
  refine ⟨infos, s1, first, fun info mem => ?_⟩
  obtain ⟨_, s2, -, done⟩ := Action.done_of_bind done
  cases infos with
  | nil => cases done
  | cons head rest =>
    obtain ⟨sum, s3, -, done⟩ := Action.done_of_bind done
    obtain ⟨rendered, s4, -, done⟩ := Action.done_of_bind done
    obtain ⟨total, s5, recorded, done⟩ := Action.done_of_bind done
    cases done
    exact (Action.record_done recorded).restsOn (List.mem_cons_of_mem _ (mem_reasons mem))

/-- A text with the number of a reason rests on that reason. -/
lemma evalWithId_done {operand : Expr}
    (done : evalWithId inner operand why s = .done result s') :
    ∃ info s1, inner.eval operand why s = .done info s1 ∧
      s'.graph.RestsOn result.why info.why := by
  obtain ⟨info, s1, first, done⟩ := Action.done_of_bind done
  refine ⟨info, s1, first, ?_⟩
  obtain ⟨found, s2, -, done⟩ := Action.done_of_bind done
  cases found with
  | error cause => cases done
  | ok node =>
    obtain ⟨rendered, s3, -, done⟩ := Action.done_of_bind done
    exact (newHiddenObject_done done).restsOn (by simp [reasons])

/-- A range rests on both of its bounds. -/
lemma evalRange_done {expr low high : Expr}
    (done : evalRange inner expr low high why s = .done result s') :
    ∃ lowInfo s1 highInfo s2, inner.eval low why s = .done lowInfo s1 ∧
      inner.eval high why s1 = .done highInfo s2 ∧
      s'.graph.RestsOn result.why lowInfo.why ∧ s'.graph.RestsOn result.why highInfo.why := by
  obtain ⟨lowInfo, s1, first, done⟩ := Action.done_of_bind done
  obtain ⟨highInfo, s2, second, done⟩ := Action.done_of_bind done
  obtain ⟨start, s3, -, done⟩ := Action.done_of_bind done
  obtain ⟨stop, s4, -, done⟩ := Action.done_of_bind done
  obtain ⟨list, s5, -, done⟩ := Action.done_of_bind done
  obtain ⟨_, s6, -, done⟩ := Action.done_of_bind done
  obtain ⟨spanned, s7, recorded, done⟩ := Action.done_of_bind done
  cases done
  have rests := Action.record_done recorded
  exact ⟨lowInfo, s1, highInfo, s2, first, second, rests.restsOn (by simp),
    rests.restsOn (by simp)⟩

/-- A comparison rests on both operands, by a reason for each of them and one for how they compare.
These are older than the truth value, and it keeps what they rest on. -/
lemma evalEq_done {expr left right : Expr}
    (done : evalEq (.within steps) expr left right why s = .done result s') :
    ∃ first s1 second s2, (Inner.within steps).eval left why s = .done first s1 ∧
      (Inner.within steps).eval right why s1 = .done second s2 ∧
      s'.graph.RestsOn result.why first.why ∧ s'.graph.RestsOn result.why second.why := by
  obtain ⟨first, s1, evalLeft, done⟩ := Action.done_of_bind done
  obtain ⟨second, s2, evalRight, done⟩ := Action.done_of_bind done
  refine ⟨first, s1, second, s2, evalLeft, evalRight, ?_⟩
  obtain ⟨_, s3, -, done⟩ := Action.done_of_bind done
  obtain ⟨_, s4, -, done⟩ := Action.done_of_bind done
  obtain ⟨firstText, s5, -, done⟩ := Action.done_of_bind done
  obtain ⟨firstWhy, s6, firstRecorded, done⟩ := Action.done_of_bind done
  obtain ⟨secondText, s7, rendered, done⟩ := Action.done_of_bind done
  cases rendered
  obtain ⟨secondWhy, s8, secondRecorded, done⟩ := Action.done_of_bind done
  obtain ⟨compared, s9, comparedRecorded, done⟩ := Action.done_of_bind done
  -- What has been recorded on the way is still there when the truth value has been made.
  have hides := (newHiddenObject_alike (within_alike steps s9.calls) "Bool" _ why).keeps done
  have compares := (record_alike _ _ _).keeps comparedRecorded
  have seconds := (record_alike _ _ _).keeps secondRecorded
  have made := (newHiddenObject_done done).restsOn (.tail _ (.head _))
  have compared := (Action.record_done comparedRecorded).keeps hides.graph
  have firstRests := (Action.record_done firstRecorded).keeps
    (seconds.trans (compares.trans hides)).graph
  have secondRests := (Action.record_done secondRecorded).keeps (compares.trans hides).graph
  constructor
  · exact made.trans ((compared.restsOn (.head _)).trans (firstRests.restsOn (.tail _ (.head _))))
  · exact made.trans
      ((compared.restsOn (.tail _ (.head _))).trans (secondRests.restsOn (.tail _ (.head _))))

/-- A number that is read from a text rests on why it was asked for, and else on nothing known. -/
lemma evalInt_done {operand : Expr}
    (done : evalInt (.within steps) operand why s = .done result s') :
    ∃ info s1 unknown, (Inner.within steps).eval operand why s = .done info s1 ∧
      s'.graph.RestsDirectly result.why [why, unknown] ∧
      ∃ shown, s'.graph.nodes[unknown]? = some ⟨unknown, .unknown, [], shown, none⟩ := by
  obtain ⟨info, s1, first, done⟩ := Action.done_of_bind done
  obtain ⟨found, s2, -, done⟩ := Action.done_of_bind done
  obtain ⟨unknown, s3, recorded, done⟩ := Action.done_of_bind done
  cases recorded
  have keeps := (newObject_alike (within_alike steps _) "Num" _ why).keeps done
  obtain ⟨shown, there⟩ := keeps.graph s2.graph.size _ Array.getElem?_push_size
  exact ⟨info, s1, s2.graph.size, first, newObject_done done, shown, there⟩

/-! ## All expressions that compute -/

/-- The expression computes its value from those of the expressions immediately inside it, and reads
no number from a text. -/
def Expr.Computes : Expr → Prop
  | .property _ _ _ | .new _ _ _ | .eq _ _ _ | .not _ _ | .isNone _ _ | .plus _ _ | .concat _ _
  | .withId _ _ | .range _ _ _ => True
  | _ => False

/-- One argument is evaluated by itself. -/
lemma evalArgs_one {arg : Expr} {info : Justified} (done : inner.eval arg why s = .done info s') :
    evalArgs inner why [arg] s = .done [info] s' := by
  simp only [evalArgs, Bind.bind, done]
  rfl

/-- Two arguments are evaluated one after the other. -/
lemma evalArgs_two {first second : Expr} {x y : Justified} {s1 : Session}
    (done : inner.eval first why s = .done x s1) (done' : inner.eval second why s1 = .done y s') :
    evalArgs inner why [first, second] s = .done [x, y] s' := by
  simp only [evalArgs, Bind.bind, done, done']
  rfl

/-- Each argument has one value. -/
lemma evalArgs_length {args : List Expr} {infos : List Justified}
    (done : evalArgs inner why args s = .done infos s') : infos.length = args.length := by
  induction args generalizing s infos with
  | nil =>
    cases done
    rfl
  | cons arg rest ih =>
    obtain ⟨info, s1, -, done⟩ := Action.done_of_bind done
    obtain ⟨others, s2, last, done⟩ := Action.done_of_bind done
    cases done
    exact congrArg _ (ih last)

/-- The operands have been evaluated in order, and the result rests on the reasons of all their
values. -/
def OperandsReached (steps : Nat) (operands : List Expr) (why : ReasonId) (s : Session)
    (result : Justified) (s' : Session) : Prop :=
  ∃ infos s1, evalArgs (.within steps) why operands s = .done infos s1 ∧
    infos.length = operands.length ∧ ∀ info ∈ infos, s'.graph.RestsOn result.why info.why

namespace OperandsReached

/-- Operands have been reached if all arguments have. -/
lemma of_all {operands : List Expr}
    (h : ∃ infos s1, evalArgs (.within steps) why operands s = .done infos s1 ∧
      ∀ info ∈ infos, s'.graph.RestsOn result.why info.why) :
    OperandsReached steps operands why s result s' := by
  obtain ⟨infos, s1, done, reached⟩ := h
  exact ⟨infos, s1, done, evalArgs_length done, reached⟩

/-- An operand has been reached if its value has. -/
lemma of_one {operand : Expr}
    (h : ∃ info s1, (Inner.within steps).eval operand why s = .done info s1 ∧
      s'.graph.RestsOn result.why info.why) :
    OperandsReached steps [operand] why s result s' := by
  obtain ⟨info, s1, done, reached⟩ := h
  refine .of_all ⟨[info], s1, evalArgs_one done, ?_⟩
  rw [List.forall_mem_singleton]
  exact reached

/-- Two operands have been reached if both values have. -/
lemma of_two {first second : Expr}
    (h : ∃ x s1 y s2, (Inner.within steps).eval first why s = .done x s1 ∧
      (Inner.within steps).eval second why s1 = .done y s2 ∧
      s'.graph.RestsOn result.why x.why ∧ s'.graph.RestsOn result.why y.why) :
    OperandsReached steps [first, second] why s result s' := by
  obtain ⟨x, s1, y, s2, done, done', left, right⟩ := h
  refine .of_all ⟨[x, y], s2, evalArgs_two done done', ?_⟩
  rw [List.forall_mem_cons, List.forall_mem_singleton]
  exact ⟨left, right⟩

end OperandsReached

/-- The result of every expression that computes rests on the reasons of the values of its operands,
whatever the session. A number that is read from a text does not: what it rests on is an unknown
reason, why it was asked for, and what that rests on, and nothing else. -/
theorem operands_reached {expr : Expr}
    (done : eval (steps + 1) expr why s = .done result s') :
    (expr.Computes → OperandsReached steps expr.inside why s result s') ∧
    ∀ loc operand, expr = .int loc operand →
      ∃ info s1 unknown, eval steps operand why s = .done info s1 ∧
        (∃ shown, s'.graph.nodes[unknown]? = some ⟨unknown, .unknown, [], shown, none⟩) ∧
        ∀ id, s'.graph.RestsOn result.why id ↔
          id = unknown ∨ id = why ∨ s'.graph.RestsOn why id := by
  constructor
  · intro computes
    cases expr with
    | property loc owner property => exact .of_one (evalProperty_done done)
    | new loc className args => exact .of_all (evalNew_done done)
    | eq loc left right => exact .of_two (evalEq_done done)
    | not loc operand =>
      obtain ⟨info, s1, first, done⟩ := Action.done_of_bind done
      obtain ⟨truth, s2, -, done⟩ := Action.done_of_bind done
      exact .of_one ⟨info, s1, first, derivedTruth_done done⟩
    | isNone loc operand =>
      obtain ⟨info, s1, first, done⟩ := Action.done_of_bind done
      exact .of_one ⟨info, s1, first, derivedTruth_done done⟩
    | plus loc operands => exact .of_all (evalPlus_done done)
    | concat loc operands => exact .of_all (evalPlus_done done)
    | withId loc operand => exact .of_one (evalWithId_done done)
    | range loc low high => exact .of_two (evalRange_done done)
    | _ => exact computes.elim
  · rintro loc operand rfl
    obtain ⟨info, s1, unknown, first, rests, shown, there⟩ := evalInt_done done
    refine ⟨info, s1, unknown, first, ⟨shown, there⟩, fun id => ?_⟩
    have nothing : ¬ s'.graph.RestsOn unknown id := by
      have direct : s'.graph.RestsDirectly unknown [] := ⟨_, there, rfl⟩
      rw [direct.restsOn_iff]
      exact fun ⟨_, mem, _⟩ => List.not_mem_nil mem
    rw [rests.restsOn_iff]
    simp only [List.mem_cons, List.not_mem_nil, or_false, exists_eq_or_imp, exists_eq_left, nothing]
    exact or_comm

/-- A comparison of two literals in a new session. -/
theorem operands_reached_of_literals :
    let s := Session.start {} {}
    let one : Expr := .const .builtin (.int 1)
    ∃ result s', eval 2 (.eq .builtin one one) 0 s = .done result s' ∧
      OperandsReached 1 [one, one] 0 s result s' := by
  intro s one
  have ran : (eval 2 (.eq .builtin one one) 0 s).result?.isSome := by decide +kernel
  obtain ⟨⟨result, s'⟩, found⟩ := Option.isSome_iff_exists.1 ran
  have done := Outcome.eq_done found
  exact ⟨result, s', done, (operands_reached done).1 trivial⟩

/-- A number that is read from a text in a new session does not rest on the reason of the text. -/
theorem numeral_forgets : (Session.start {} {}).Reachable ∧
    let s := Session.start {} {}
    let written : Expr := .new .builtin "String" [.const .builtin (.str "41")]
    ∃ info s1 result s', eval 5 written 0 s = .done info s1 ∧
      eval 6 (.int .builtin written) 0 s = .done result s' ∧
      ¬ s'.graph.RestsOn result.why info.why := by
  refine ⟨.start {} {}, ?_⟩
  intro s written
  have read : (eval 5 written 0 s).result?.map (·.1.why) = some 29 := by decide +kernel
  have ran : (eval 6 (.int .builtin written) 0 s).result?.map (fun (result, s') =>
      [result.why, 0, 30].map fun id => s'.graph.nodes[id]?.map Node.supporters) =
      some [some [0, 30], some [], some []] := by decide +kernel
  obtain ⟨⟨info, s1⟩, found, number⟩ := Option.map_eq_some_iff.1 read
  obtain ⟨⟨result, s'⟩, found', supporters⟩ := Option.map_eq_some_iff.1 ran
  simp only [List.map_cons, List.map_nil, List.cons.injEq, and_true,
    ← Graph.restsDirectly_iff] at supporters
  obtain ⟨top, asked, unknown⟩ := supporters
  refine ⟨info, s1, result, s', Outcome.eq_done found, Outcome.eq_done found', ?_⟩
  rw [show info.why = 29 from number, top.restsOn_iff]
  rintro ⟨supporter, mem, rests⟩
  -- Neither of the supporters is the reason of the text, and neither rests on anything.
  obtain rfl | rfl : supporter = 0 ∨ supporter = 30 := by simpa using mem
  · rw [asked.restsOn_iff] at rests
    simp at rests
  · rw [unknown.restsOn_iff] at rests
    simp at rests

end Because
