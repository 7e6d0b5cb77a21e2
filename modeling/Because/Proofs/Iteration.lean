import Because.Proofs.Handover
import Because.Proofs.Operands
import Because.Proofs.Properties

/-!
# Loops over collections

A loop over a collection visits the items that the collection has when the loop begins: its body
runs once for each of them, in their order, with the item as the value of the variable of the loop,
until the body returns or fails. What the body does to the collection makes no difference.
-/

namespace Because

namespace Session

/-- The variable of a loop is declared, and is None for now. -/
def beginLoop (s : Session) (loopScope : ScopeId) (name : String) : Session :=
  { s with
    graph := s.graph.push (.text "Initialized by ForEach loop") [] none
    scopes := s.scopes.bind loopScope name (.none s.graph.size) }

/-- A pass of a loop begins: its variable has the item as its value, and there is a new scope. -/
structure Begins (s : Session) (loopScope : ScopeId) (name : String) (item : Value)
    (now : Session) : Prop where
  scopes : ∃ why description, now.scopes =
    (s.scopes.bind loopScope name ⟨item, why⟩).push { parent := some loopScope, description }
  same : now = { s with graph := now.graph, scopes := now.scopes }
  keeps : s.Keeps now

/-- How a loop ends that has these items to visit: each pass runs the body in the scope that it has
made, and what a pass that does not end normally comes to is what the loop comes to. -/
inductive Visits (inner : Inner) (loopScope : ScopeId) (name : String) (body : List Stmt) :
    List Value → Session → Outcome Failure Flow → Prop where
  | over {s} : Visits inner loopScope name body [] s (.done .normal s)
  | next {item rest s now why s' o} : s.Begins loopScope name item now →
    Action.inScope s.scopes.size (runStatements inner why body) now = .done .normal s' →
    Visits inner loopScope name body rest s' o →
    Visits inner loopScope name body (item :: rest) s o
  | stops {item rest s now why o} : s.Begins loopScope name item now →
    Action.inScope s.scopes.size (runStatements inner why body) now = o →
    (∀ s', o ≠ .done .normal s') → Visits inner loopScope name body (item :: rest) s o

variable {s s' : Session} {steps : Nat} {loopScope : ScopeId} {name : String} {body : List Stmt}
  {why collectionWhy : ReasonId} {loc : Location} {items : List Justified}

/-- Reasons that have been recorded are kept. -/
lemma Keeps.knows {ids : List ReasonId} (h : s.Keeps s') (known : s.graph.Knows ids) :
    s'.graph.Knows ids := by
  intro j mem
  obtain ⟨node, found⟩ : ∃ node, s.graph.nodes[j]? = some node :=
    ⟨_, Array.getElem?_eq_getElem (known j mem)⟩
  obtain ⟨shown, kept⟩ := h.graph j node found
  exact Graph.lt_size kept

/-- A pass begins if there is another item, whatever the body is and whatever items follow. -/
lemma forItems_begins {item : Justified}
    (known : s.graph.Knows [why, collectionWhy, item.why])
    (bound : s.scopes.binds loopScope name = true) (loc : Location) :
    ∃ pass now, s.Begins loopScope name item.value now ∧ Nat.lt pass now.graph.size ∧
      ∀ inner body rest,
        forItems inner loopScope name loc body collectionWhy why (item :: rest) s =
          (Action.inScope s.scopes.size (runStatements inner pass body) >>= fun
            | .normal => forItems inner loopScope name loc body collectionWhy why rest
            | .returned result => pure (.returned result)) now := by
  obtain ⟨rendered, renders⟩ :
      ∃ text, Action.render (ε := Failure) item.value s = .done text s := ⟨_, rfl⟩
  obtain ⟨s1, told, notes, fresh⟩ := full_done known s!"loop iterator {name}" rendered loc
  have keeps : s.Keeps s1 := (record_alike _ _ _).keeps told
  have bound1 := keeps.binds _ _ bound
  have assigns := assign_bound bound1 ⟨item.value, s.graph.size⟩
  let s2 : Session :=
    { s1 with scopes := s1.scopes.bind loopScope name ⟨item.value, s.graph.size⟩ }
  let description := s!"iteration where {name} = {rendered}"
  let s3 : Session :=
    { s2 with scopes := s2.scopes.push { parent := some loopScope, description } }
  have makes : (Action.newScope loopScope description : Eval ScopeId) s2 =
      .done s.scopes.size s3 := by
    rw [← notes.scopes, ← Scopes.size_update s1.scopes]
    rfl
  refine ⟨s.graph.size, s3, ⟨⟨s.graph.size, description, ?_⟩, ?_, ?_⟩, fresh,
    fun inner body rest => ?_⟩
  · simp only [s3, s2, notes.scopes]
  · simp only [s3, s2]
    rw [notes.same]
  · exact (keeps.trans (.bind ..)).trans (.newScope ..)
  · rw [forItems, Action.bind_done renders, Action.bind_done told, Action.bind_done assigns]
    exact Action.bind_done makes

/-- A loop visits its items. -/
lemma forItems_visits (known : s.graph.Knows (why :: collectionWhy :: reasons items))
    (bound : s.scopes.binds loopScope name = true) :
    Visits (.within steps) loopScope name body (items.map Justified.value) s
      (forItems (.within steps) loopScope name loc body collectionWhy why items s) := by
  induction items generalizing s with
  | nil => exact .over
  | cons item rest ih =>
    have among : [why, collectionWhy, item.why] ⊆ why :: collectionWhy :: reasons (item :: rest) :=
      by simp [reasons]
    have others : why :: collectionWhy :: reasons rest ⊆
        why :: collectionWhy :: reasons (item :: rest) :=
      List.cons_subset_cons _ (List.cons_subset_cons _ (List.subset_cons_self ..))
    obtain ⟨pass, now, begins, -, runs⟩ :=
      forItems_begins (fun j mem => known j (among mem)) bound loc
    rw [runs]
    cases ends : Action.inScope s.scopes.size (runStatements (.within steps) pass body) now with
    | done flow s' =>
      rw [Action.bind_done ends]
      cases flow with
      | normal =>
        have keeps : now.Keeps s' :=
          ((runStatements_alike (within_alike steps now.calls) pass body).inScope _).keeps ends
        have all := begins.keeps.trans keeps
        exact .next begins ends
          (ih (all.knows fun j mem => known j (others mem)) (all.binds _ _ bound))
      | returned result => exact .stops begins ends (by rintro _ ⟨⟩)
    | failed failure s' =>
      rw [Action.bind_failed ends]
      exact .stops begins ends (by rintro _ ⟨⟩)
    | exhausted =>
      rw [Action.bind_exhausted ends]
      exact .stops begins ends (by rintro _ ⟨⟩)

/-- The variable of a loop can be declared if its scope does not bind it. -/
lemma beginLoop_declares (free : s.scopes.binds loopScope name = false) :
    Action.declare loopScope name (.none s.graph.size)
        { s with graph := s.graph.push (.text "Initialized by ForEach loop") [] none } =
      .done () (s.beginLoop loopScope name) := by
  simp only [Action.declare, Scopes.declare, free]
  rfl

/-- Once its collection has been evaluated, a loop over it goes through the items that this has. -/
lemma forCollection_runs {values : Expr} {value : Value} {handle : Handle} {now : Session}
    (evaluates : (Inner.within steps).eval values why s = .done ⟨value, collectionWhy⟩ now)
    (state : now.handle? value = some handle) (visits : handle.items? = some items)
    (free : now.scopes.binds loopScope name = false) :
    forCollection (.within steps) loopScope name values body why s =
      forItems (.within steps) loopScope name values.loc body collectionWhy why items
        (now.beginLoop loopScope name) := by
  let told := now.graph.push (.text "Initialized by ForEach loop") [] none
  have tells : (Action.text "Initialized by ForEach loop" : Eval ReasonId) now =
      .done now.graph.size { now with graph := told } := rfl
  have declares := beginLoop_declares free
  have same : (now.beginLoop loopScope name).handle? value = now.handle? value := by
    have tags (i : ScopeId) : ((now.beginLoop loopScope name).scopes.scopeAt i).tag =
        (now.scopes.scopeAt i).tag := Scopes.tag_bind ..
    simp only [handle?, tag?, tags]
  have expects : expectItems ⟨value, collectionWhy⟩ (now.beginLoop loopScope name) =
      .done items (now.beginLoop loopScope name) := by
    simp only [expectItems, Bind.bind, Action.ask, same, state, Option.bind_some, visits]
    rfl
  rw [forCollection, Action.bind_done evaluates, Action.bind_done tells, Action.bind_done declares,
    Action.bind_done expects]

/-- The scope of a loop binds its variable. -/
lemma beginLoop_binds (room : Nat.lt loopScope s.scopes.size) (name : String) :
    (s.beginLoop loopScope name).scopes.binds loopScope name = true := by
  rw [beginLoop, Scopes.binds, Scopes.bind, Scopes.scopeAt_update, if_pos ⟨rfl, room⟩,
    Assoc.contains_insert, decide_eq_true rfl, Bool.true_or]

/-- A loop over a collection visits the items of the collection. -/
lemma forCollection_visits {values : Expr} {value : Value} {handle : Handle} {now : Session}
    (evaluates : (Inner.within steps).eval values why s = .done ⟨value, collectionWhy⟩ now)
    (state : now.handle? value = some handle) (visits : handle.items? = some items)
    (known : now.graph.Knows (why :: collectionWhy :: reasons items))
    (room : Nat.lt loopScope now.scopes.size)
    (free : now.scopes.binds loopScope name = false) :
    Visits (.within steps) loopScope name body (items.map Justified.value)
      (now.beginLoop loopScope name)
      (forCollection (.within steps) loopScope name values body why s) := by
  have size : now.graph.size ≤ (now.beginLoop loopScope name).graph.size :=
    Nat.le.intro (Graph.size_push ..).symm
  rw [forCollection_runs evaluates state visits free]
  exact forItems_visits (fun j mem => Nat.lt_of_lt_of_le (known j mem) size)
    (beginLoop_binds room name)

end Session

end Because
