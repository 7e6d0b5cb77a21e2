import Because.Proofs.Outside

/-!
# What the declaration of a class leaves

A class whose name is still free gets the next number. Its functions get the next numbers too, in
the order in which it declares its methods, and its table is that of its parent, extended by them.
Classes and functions that were there before stay as they are.
-/

namespace Because

/-- The function of a method that the class with this number declares. -/
def FunctionDef.ofMethod (id : ClassId) (method : Function) : FunctionDef :=
  ⟨method.name, method.params, method.body, some id, method.loc⟩

/-- The table after further methods, whose functions have the numbers from `next` on. -/
def MethodTable.extend (table : MethodTable) : FunctionId → List Function → MethodTable
  | _, [] => table
  | next, method :: rest => MethodTable.extend (table.insert method.name next) (next + 1) rest

section

variable {methods : List Function} {table : MethodTable}

/-- Methods of other names leave a name in the table as it is. -/
lemma MethodTable.get?_extend_of_not_mem {name : String}
    (new : name ∉ methods.map FunctionDecl.name) (next : FunctionId) :
    (table.extend next methods).get? name = table.get? name := by
  induction methods generalizing table next with
  | nil => rfl
  | cons method rest ih =>
    obtain ⟨ne, new⟩ := not_or.1 (List.mem_cons.not.1 new)
    rw [extend, ih new, Assoc.get?_insert, if_neg ne]

/-- A method with a name of its own gets a number by its place. -/
lemma MethodTable.get?_extend (distinct : (methods.map FunctionDecl.name).Nodup)
    (next : FunctionId) {k : Nat} (lt : k < methods.length) :
    (table.extend next methods).get? methods[k].name = some (next + k) := by
  induction methods generalizing table next k with
  | nil => exact absurd lt (Nat.not_lt_zero _)
  | cons method rest ih =>
    obtain ⟨new, distinct⟩ := List.nodup_cons.1 distinct
    cases k with
    | zero => exact (get?_extend_of_not_mem new _).trans ((Assoc.get?_insert ..).trans (if_pos rfl))
    | succ k =>
      rw [extend, List.getElem_cons_succ, ih distinct _ (Nat.lt_of_succ_lt_succ lt), Nat.add_assoc,
        Nat.add_comm 1]

end

namespace Session

variable {s s' s'' : Session} {id : ClassId} {why : ReasonId} {methods : List Function}

/-! ## Methods -/

/-- The class has got these methods; nothing else has changed but the scope that holds them. -/
structure AddsMethods (s : Session) (id : ClassId) (methods : List Function) (s' : Session) :
    Prop where
  graph : s.graph.size ≤ s'.graph.size
  scopes : s'.scopes.size = s.scopes.size
  others : ∀ i : ScopeId, i ≠ (s.classAt id).implScope → s'.scopes.scopeAt i = s.scopes.scopeAt i
  classes : s'.classes.size = s.classes.size
  classAt : ∀ other : ClassId, s'.classAt other = if other = id then
    { s.classAt id with
      methods := MethodTable.extend (s.classAt id).methods s.functions.size methods }
    else s.classAt other
  functions : s'.functions.toList = s.functions.toList ++ methods.map (.ofMethod id)
  binds : ∀ name, s.scopes.binds (s.classAt id).implScope name = true ∨
      name ∈ methods.map FunctionDecl.name →
    s'.scopes.binds (s.classAt id).implScope name = true
  quiet : s.Quiet s'

/-- The session in which the class has declared one more method. -/
def withDeclared (s : Session) (id : ClassId) (method : Function) : Session :=
  let told : Session :=
    { s with graph := s.graph.push (.text s!"def {method.name} is in my program") [] none }
  (told.withFunction (.ofMethod id method)).withMethod id method.name s.functions.size s.graph.size

/-- A method whose name is free is declared before the rest. -/
lemma declareMethods_cons {method : Function} {rest : List Function}
    (absent : s.scopes.binds (s.classAt id).implScope method.name = false) :
    declareMethods id (s.classAt id).implScope (method :: rest) s =
      declareMethods id (s.classAt id).implScope rest (s.withDeclared id method) := by
  let told : Session :=
    { s with graph := s.graph.push (.text s!"def {method.name} is in my program") [] none }
  let kept := told.withFunction (.ofMethod id method)
  let info : Justified := ⟨.functionRef s.functions.size, s.graph.size⟩
  have tells : (Action.text s!"def {method.name} is in my program" : Eval ReasonId) s =
      .done s.graph.size told := rfl
  have keeps : defineFunction method (some id) told = .done s.functions.size kept := rfl
  have binds : Action.declare (s.classAt id).implScope method.name info kept = .done () { kept with
      scopes := s.scopes.bind (s.classAt id).implScope method.name info } := by
    have absent : kept.scopes.binds (s.classAt id).implScope method.name = false := absent
    simp only [Action.declare, Scopes.declare, absent]
    rfl
  rw [declareMethods, Action.bind_done tells, Action.bind_done keeps, Action.bind_done binds]
  rfl

/-- A method that has been declared binds its name in the scope of its class, and no other name
there. -/
lemma withDeclared_binds (scope : Nat.lt (s.classAt id).implScope s.scopes.size)
    (method : Function) (name : String) :
    (s.withDeclared id method).scopes.binds (s.classAt id).implScope name = true ↔
      s.scopes.binds (s.classAt id).implScope name = true ∨ name = method.name := by
  have found := congrArg Option.isSome (Scopes.local_bind s.scopes (s.classAt id).implScope
    method.name ⟨.functionRef s.functions.size, s.graph.size⟩ (s.classAt id).implScope name)
  refine (iff_of_eq (congrArg (· = true) found)).trans ?_
  by_cases here : name = method.name
  · rw [if_pos ⟨⟨rfl, scope⟩, here⟩]
    exact iff_of_true rfl (.inr here)
  · rw [if_neg fun same => here same.2]
    exact (or_iff_left here).symm

namespace AddsMethods

/-- If no methods are declared, nothing changes. -/
lemma nil (s : Session) (id : ClassId) : s.AddsMethods id [] s := by
  refine ⟨Nat.le_refl _, rfl, fun _ _ => rfl, rfl, fun other => ?_, (List.append_nil _).symm,
    fun _ bound => bound.resolve_right List.not_mem_nil, .refl s⟩
  split
  · rename_i here
    rw [here]
    rfl
  · rfl

/-- One method has been declared. -/
lemma one (made : Nat.lt id s.classes.size) (scope : Nat.lt (s.classAt id).implScope s.scopes.size)
    (method : Function) : s.AddsMethods id [method] (s.withDeclared id method) where
  graph := Nat.le.intro (Graph.size_push ..).symm
  scopes := Scopes.size_update ..
  others i ne := (Scopes.scopeAt_update ..).trans (if_neg fun here => ne here.1.symm)
  classes := Array.size_modify
  classAt other := by
    refine (classAt_withMethod ..).trans ?_
    by_cases here : other = id
    · subst here
      rw [if_pos ⟨rfl, made⟩, if_pos rfl]
      rfl
    · rw [if_neg fun same => here same.1.symm, if_neg here]
      rfl
  functions := Array.toList_push ..
  binds name bound :=
    (withDeclared_binds scope method name).2 (bound.imp_right List.mem_singleton.1)
  quiet := ⟨⟨rfl, rfl⟩, rfl⟩

/-- The methods stand in the same scope as before. -/
lemma implScope (h : s.AddsMethods id methods s') :
    (s'.classAt id).implScope = (s.classAt id).implScope := by
  rw [h.classAt, if_pos rfl]

/-- Further methods are declared after the first one. -/
lemma cons {method : Function} {rest : List Function} (first : s.AddsMethods id [method] s')
    (h : s'.AddsMethods id rest s'') : s.AddsMethods id (method :: rest) s'' where
  graph := Nat.le_trans first.graph h.graph
  scopes := h.scopes.trans first.scopes
  others i ne := (h.others i (first.implScope ▸ ne)).trans (first.others i ne)
  classes := h.classes.trans first.classes
  classAt other := by
    have next : s'.functions.size = s.functions.size + 1 := by
      simpa using congrArg List.length first.functions
    rw [h.classAt, first.classAt id, first.classAt other, if_pos rfl, next]
    split <;> rfl
  functions := by
    rw [h.functions, first.functions, List.append_assoc]
    rfl
  binds name bound := by
    have binds := h.binds name
    rw [first.implScope] at binds
    obtain old | mem := bound
    · exact binds (.inl (first.binds name (.inl old)))
    · obtain here | there := List.mem_cons.1 mem
      · exact binds (.inl (first.binds name (.inr (List.mem_singleton.2 here))))
      · exact binds (.inr there)
  quiet := first.quiet.trans h.quiet

end AddsMethods

/-- Methods with names of their own are declared one after the other. -/
lemma declareMethods_done (made : Nat.lt id s.classes.size)
    (scope : Nat.lt (s.classAt id).implScope s.scopes.size)
    (distinct : (methods.map FunctionDecl.name).Nodup)
    (free : ∀ method ∈ methods, s.scopes.binds (s.classAt id).implScope method.name = false) :
    ∃ s', declareMethods id (s.classAt id).implScope methods s = .done () s' ∧
      s.AddsMethods id methods s' := by
  induction methods generalizing s with
  | nil => exact ⟨s, rfl, .nil s id⟩
  | cons method rest ih =>
    obtain ⟨new, distinct⟩ := List.nodup_cons.1 distinct
    obtain ⟨absent, others⟩ := List.forall_mem_cons.1 free
    have first := AddsMethods.one made scope method
    have free (other : Function) (mem : other ∈ rest) :
        (s.withDeclared id method).scopes.binds ((s.withDeclared id method).classAt id).implScope
          other.name = false := by
      rw [first.implScope, Bool.eq_false_iff, Ne, withDeclared_binds scope, others other mem]
      rintro (bound | same)
      · cases bound
      · exact new (List.mem_map.2 ⟨other, mem, same⟩)
    obtain ⟨s', done, adds⟩ := ih (Nat.lt_of_lt_of_eq made first.classes.symm)
      (Nat.lt_of_lt_of_eq (first.implScope ▸ scope) first.scopes.symm) distinct free
    rw [first.implScope] at done
    exact ⟨s', (declareMethods_cons absent).trans done, first.cons adds⟩

/-! ## Classes -/

/-- The class that a declaration makes below the parent, if it has one. -/
def madeClass (s : Session) (decl : Class) (parent : Option ClassId) : ClassDef where
  name := decl.name
  parent := parent
  fields := decl.fields
  implScope := s.scopes.size
  methods := MethodTable.extend (((parent.map s.classAt).map ClassDef.methods).getD [])
    s.functions.size decl.methods
  builtin := none
  nativeBase := (parent.map s.classAt).bind ClassDef.nativeBase

/-- The class has been declared, and the global scope has its name; nothing else has changed. -/
structure Introduces (s : Session) (decl : Class) (parent : Option ClassId) (why : ReasonId)
    (s' : Session) : Prop where
  graph : s.graph.size ≤ s'.graph.size
  scopes : s'.scopes.size = s.scopes.size + 1
  others : ∀ i : Nat, i < s.scopes.size → i ≠ globalScope →
    s'.scopes.scopeAt i = s.scopes.scopeAt i
  globals : ∀ name, s'.global? name =
    if name = decl.name then some ⟨.classRef s.classes.size, why⟩ else s.global? name
  classes : s'.classes.size = s.classes.size + 1
  old : ∀ other : Nat, other < s.classes.size → s'.classAt other = s.classAt other
  new : s'.classAt s.classes.size = s.madeClass decl parent
  functions : s'.functions.toList =
    s.functions.toList ++ decl.methods.map (.ofMethod s.classes.size)
  binds : ∀ name ∈ decl.methods.map FunctionDecl.name, s'.scopes.binds s.scopes.size name = true
  quiet : s.Quiet s'

/-- The scope that is to hold the methods of the class. -/
def classScope (s : Session) (decl : Class) (parent : Option ClassId) : Scope where
  parent := some (((parent.map s.classAt).map ClassDef.implScope).getD globalScope)
  description := decl.name

/-- The class before it gets methods of its own. -/
def bareClass (s : Session) (decl : Class) (parent : Option ClassId) : ClassDef :=
  { s.madeClass decl parent with
    methods := ((parent.map s.classAt).map ClassDef.methods).getD [] }

/-- Looking up the class above changes nothing. -/
lemma findParent_leaves {decl : Class} {parent : Option ClassId}
    (found : findParent decl why s = .done parent s') : s' = s := by
  cases names : decl.parent with
  | none =>
    simp only [findParent, names] at found
    cases found
    rfl
  | some name =>
    simp only [findParent, names, Bind.bind, Action.ask] at found
    cases known : s.lookupClass? name with
    | none =>
      rw [known] at found
      cases found
    | some id =>
      rw [known] at found
      cases found
      rfl

/-- Once its parent is known, the class is there, and then it gets its name and its methods. -/
lemma declareClass_found {decl : Class} {parent : Option ClassId}
    (found : findParent decl why s = .done parent s) :
    declareClass decl why s =
      (Action.declare globalScope decl.name ⟨.classRef s.classes.size, why⟩ >>= fun _ =>
        declareMethods s.classes.size s.scopes.size decl.methods)
          (s.withClass (s.classScope decl parent) (s.bareClass decl parent)) := by
  rw [declareClass, Action.bind_done found]
  rfl

/-- The session in which the class has got its name, but no methods of its own yet. -/
def withNamedClass (s : Session) (decl : Class) (parent : Option ClassId) (why : ReasonId) :
    Session :=
  let made := s.withClass (s.classScope decl parent) (s.bareClass decl parent)
  { made with scopes := made.scopes.bind globalScope decl.name ⟨.classRef s.classes.size, why⟩ }

section

variable {decl : Class} {parent : Option ClassId}

/-- A class that gets its name has a new scope, and but for the global one all others stay as they
are. -/
lemma withNamedClass_scopeAt (i : ScopeId) (ne : i ≠ globalScope) :
    (s.withNamedClass decl parent why).scopes.scopeAt i =
      if i = s.scopes.size then s.classScope decl parent else s.scopes.scopeAt i :=
  ((Scopes.scopeAt_update ..).trans (if_neg fun here => ne here.1.symm)).trans
    (Scopes.scopeAt_push ..)

/-- Globally the name of the class is bound, and nothing else changes. -/
lemma withNamedClass_global (global : Nat.lt globalScope s.scopes.size) (name : String) :
    (s.withNamedClass decl parent why).global? name =
      if name = decl.name then some ⟨.classRef s.classes.size, why⟩ else s.global? name := by
  let made := s.withClass (s.classScope decl parent) (s.bareClass decl parent)
  have inside : Nat.lt globalScope made.scopes.size :=
    Nat.lt_of_lt_of_eq (Nat.lt_succ_of_lt global) (Scopes.size_push ..).symm
  have before : made.scopes.local? globalScope name = s.global? name := by
    have old : made.scopes.scopeAt globalScope = s.scopes.scopeAt globalScope :=
      (Scopes.scopeAt_push ..).trans (if_neg (Nat.ne_of_lt global))
    rw [Scopes.local?, old]
    rfl
  refine (Scopes.local_bind made.scopes globalScope decl.name _ globalScope name).trans ?_
  rw [before]
  by_cases here : name = decl.name
  · rw [if_pos ⟨⟨rfl, inside⟩, here⟩, if_pos here]
  · rw [if_neg fun same => here same.2, if_neg here]

/-- So far the class has been declared as if it had no methods. -/
lemma withNamedClass_introduces (global : Nat.lt globalScope s.scopes.size) :
    s.Introduces { decl with methods := [] } parent why (s.withNamedClass decl parent why) where
  graph := Nat.le_refl _
  scopes := (Scopes.size_update ..).trans (Scopes.size_push ..)
  others i lt ne := (withNamedClass_scopeAt i ne).trans (if_neg (Nat.ne_of_lt lt))
  globals := withNamedClass_global global
  classes := Array.size_push ..
  old _ lt := (classAt_withClass s (s.classScope decl parent) (s.bareClass decl parent) _).trans
    (if_neg (Nat.ne_of_lt lt))
  new := (classAt_withClass s (s.classScope decl parent) (s.bareClass decl parent) _).trans
    (if_pos rfl)
  functions := (List.append_nil _).symm
  binds := List.forall_mem_nil _
  quiet := ⟨⟨rfl, rfl⟩, rfl⟩

/-- A class that has got its methods has been declared with them. -/
lemma Introduces.withMethods (h : s.Introduces { decl with methods := [] } parent why s')
    (global : Nat.lt globalScope s.scopes.size)
    (adds : s'.AddsMethods s.classes.size decl.methods s'') : s.Introduces decl parent why s'' := by
  have impl : (s'.classAt s.classes.size).implScope = s.scopes.size := by
    rw [h.new]
    rfl
  have functions : s'.functions.toList = s.functions.toList := h.functions.trans (List.append_nil _)
  have size : s'.functions.size = s.functions.size := congrArg List.length functions
  exact {
    graph := Nat.le_trans h.graph adds.graph
    scopes := adds.scopes.trans h.scopes
    others i lt ne := (adds.others i (impl ▸ Nat.ne_of_lt lt)).trans (h.others i lt ne)
    globals name := by
      rw [← h.globals, global?, Scopes.local?, adds.others _ (impl ▸ Nat.ne_of_lt global)]
      rfl
    classes := adds.classes.trans h.classes
    old other lt := by rw [adds.classAt, if_neg (Nat.ne_of_lt lt), h.old other lt]
    new := by
      rw [adds.classAt, if_pos rfl, h.new, size]
      rfl
    functions := by rw [adds.functions, functions]
    binds name mem := by
      have bound := adds.binds name (.inr mem)
      rwa [impl] at bound
    quiet := h.quiet.trans adds.quiet }

/-- A class whose name is free is declared, if its parent is found and its methods have names of
their own. -/
lemma declareClass_done (global : Nat.lt globalScope s.scopes.size)
    (found : findParent decl why s = .done parent s)
    (free : s.scopes.binds globalScope decl.name = false)
    (distinct : (decl.methods.map FunctionDecl.name).Nodup) :
    ∃ s', declareClass decl why s = .done () s' ∧ s.Introduces decl parent why s' := by
  let made := s.withClass (s.classScope decl parent) (s.bareClass decl parent)
  let now := s.withNamedClass decl parent why
  have bare : s.Introduces { decl with methods := [] } parent why now :=
    withNamedClass_introduces global
  have impl : (now.classAt s.classes.size).implScope = s.scopes.size := by
    rw [bare.new]
    rfl
  have absent (method : Function) (_ : method ∈ decl.methods) :
      now.scopes.binds (now.classAt s.classes.size).implScope method.name = false := by
    rw [impl, Scopes.binds, withNamedClass_scopeAt _ (Nat.ne_of_gt global), if_pos rfl]
    rfl
  obtain ⟨s', done, adds⟩ := declareMethods_done
    (Nat.lt_of_lt_of_eq (Nat.lt_succ_self _) bare.classes.symm)
    (Nat.lt_of_lt_of_eq (impl.symm ▸ Nat.lt_succ_self _) bare.scopes.symm) distinct absent
  rw [impl] at done
  have binds : Action.declare globalScope decl.name ⟨.classRef s.classes.size, why⟩ made =
      .done () now := by
    have absent : made.scopes.binds globalScope decl.name = false := by
      have old : made.scopes.scopeAt globalScope = s.scopes.scopeAt globalScope :=
        (Scopes.scopeAt_push ..).trans (if_neg (Nat.ne_of_lt global))
      rw [Scopes.binds, old]
      exact free
    simp only [Action.declare, Scopes.declare, absent]
    rfl
  refine ⟨s', ?_, bare.withMethods global adds⟩
  rw [declareClass_found found, Action.bind_done binds]
  exact done

end

/-- What could be declared was not bound before, and is bound now. -/
lemma free_of_declared {i : ScopeId} {name : String} {info : Justified}
    (declared : Action.declare i name info s = .done () s') :
    s.scopes.binds i name = false ∧ s' = { s with scopes := s.scopes.bind i name info } := by
  cases bound : s.scopes.binds i name with
  | true =>
    simp only [Action.declare, Scopes.declare, bound] at declared
    cases declared
  | false =>
    simp only [Action.declare, Scopes.declare, bound] at declared
    cases declared
    exact ⟨rfl, rfl⟩

/-- Methods can be declared only if they have names of their own. -/
lemma declareMethods_distinct {scope : ScopeId} (made : Nat.lt scope s.scopes.size)
    (done : declareMethods id scope methods s = .done () s') :
    (methods.map FunctionDecl.name).Nodup ∧
      ∀ method ∈ methods, s.scopes.binds scope method.name = false := by
  induction methods generalizing s with
  | nil => exact ⟨List.nodup_nil, List.forall_mem_nil _⟩
  | cons method rest ih =>
    let info : Justified := ⟨.functionRef s.functions.size, s.graph.size⟩
    let told : Session :=
      { s with graph := s.graph.push (.text s!"def {method.name} is in my program") [] none }
    have done : (Action.declare scope method.name info >>= fun _ =>
        (Action.setMethod id method.name s.functions.size >>= fun _ =>
          declareMethods id scope rest : Eval Unit)) (told.withFunction (.ofMethod id method)) =
        .done () s' := done
    obtain ⟨_, now, declared, done⟩ := Action.done_of_bind done
    obtain ⟨free, rfl⟩ := free_of_declared declared
    obtain ⟨distinct, others⟩ := ih (Nat.lt_of_lt_of_eq made (Scopes.size_update ..).symm) done
    have named (other : String) := Scopes.local_bind s.scopes scope method.name info scope other
    have new (other : Function) (mem : other ∈ rest) : other.name ≠ method.name := by
      intro same
      have bound := congrArg Option.isSome (named other.name)
      rw [if_pos ⟨⟨rfl, made⟩, same⟩] at bound
      cases (others other mem).symm.trans bound
    refine ⟨List.nodup_cons.2 ⟨fun mem => ?_, distinct⟩, List.forall_mem_cons.2 ⟨free, ?_⟩⟩
    · obtain ⟨other, mem, same⟩ := List.mem_map.1 mem
      exact new other mem same
    · intro other mem
      have bound := congrArg Option.isSome (named other.name)
      rw [if_neg fun here => new other mem here.2] at bound
      exact bound.symm.trans (others other mem)

/-- A class that has been declared has a parent that could be found, and a name that was free. -/
lemma declareClass_introduces {decl : Class} (global : Nat.lt globalScope s.scopes.size)
    (done : declareClass decl why s = .done () s') :
    (decl.methods.map FunctionDecl.name).Nodup ∧ ∃ parent, s.Introduces decl parent why s' := by
  have ends := done
  rw [declareClass] at ends
  obtain ⟨parent, now, found, -⟩ := Action.done_of_bind ends
  obtain rfl := findParent_leaves found
  have ends := done
  rw [declareClass_found found] at ends
  obtain ⟨_, named, declared, ends⟩ := Action.done_of_bind ends
  obtain ⟨free, rfl⟩ := free_of_declared declared
  have room : now.scopes.size + 1 =
      ((now.withClass (now.classScope decl parent) (now.bareClass decl parent)).scopes.bind
        globalScope decl.name ⟨.classRef now.classes.size, why⟩).size :=
    ((Scopes.size_update ..).trans (Scopes.size_push ..)).symm
  obtain ⟨distinct, -⟩ := declareMethods_distinct
    (Nat.lt_of_lt_of_eq (Nat.lt_succ_self _) room) ends
  have free : now.scopes.binds globalScope decl.name = false := by
    have old := Scopes.scopeAt_push now.scopes (now.classScope decl parent) globalScope
    rw [if_neg (Nat.ne_of_lt global)] at old
    exact (congrArg (·.bindings.contains decl.name) old).symm.trans free
  obtain ⟨s'', done', introduces⟩ := declareClass_done global found free distinct
  rw [done] at done'
  cases done'
  exact ⟨distinct, parent, introduces⟩

/-- It makes no difference which reasons are recorded before. -/
lemma Introduces.after {decl : Class} {parent : Option ClassId} (notes : s.Notes s')
    (h : s'.Introduces decl parent why s'') : s.Introduces decl parent why s'' := by
  obtain ⟨graph, scopes, others, globals, classes, old, new, functions, binds, quiet⟩ := h
  have later := Nat.le_trans notes.graph graph
  have quiet := (Quiet.of_notes notes).trans quiet
  rw [notes.same] at scopes others globals classes old new functions binds
  exact ⟨later, scopes, others, globals, classes, old, new, functions, binds, quiet⟩

/-- Classes and functions stay what they are, whatever comes on top. -/
structure Enlarges (s s' : Session) : Prop where
  classes : s.classes.size ≤ s'.classes.size
  functions : s.functions.size ≤ s'.functions.size
  classAt : ∀ id : Nat, id < s.classes.size → s'.classAt id = s.classAt id
  functionAt : ∀ f : Nat, f < s.functions.size → s'.functionAt f = s.functionAt f

/-- Writing variables and changing states leaves classes and functions as they are. -/
lemma Alters.enlarges {written : Places} {restated : ScopeId → Prop}
    (h : s.Alters written restated s') : s.Enlarges s' where
  classes := Nat.le_of_eq (congrArg Array.size h.classes).symm
  functions := Nat.le_of_eq (congrArg Array.size h.functions).symm
  classAt id _ := h.classAt id
  functionAt f _ := h.functionAt f

/-- Making reasons and objects leaves classes and functions as they are. -/
lemma Adds.enlarges (h : s.Adds s') : s.Enlarges s' :=
  h.unaltered.enlarges

/-- The class has the method of its own. -/
structure Overrides (s : Session) (id : ClassId) (method : Function) (f : FunctionId) : Prop where
  table : (s.classAt id).methods.get? method.name = some f
  made : Nat.lt f s.functions.size
  function : s.functionAt f = .ofMethod id method

/-- The class keeps its method, whatever comes on top. -/
lemma Overrides.enlarged {method : Function} (h : s.Overrides id method f)
    (made : Nat.lt id s.classes.size) (enlarges : s.Enlarges s') : s'.Overrides id method f where
  table := by rw [enlarges.classAt id made, h.table]
  made := Nat.lt_of_lt_of_le h.made enlarges.functions
  function := by rw [enlarges.functionAt f h.made, h.function]

namespace Introduces

variable {decl : Class} {parent : Option ClassId} (h : s.Introduces decl parent why s')

include h

/-- There is one more function for each method. -/
lemma functions_size : s'.functions.size = s.functions.size + decl.methods.length := by
  rw [← Array.length_toList, h.functions, List.length_append, Array.length_toList,
    List.length_map]

/-- The functions of the methods come after those that were there before. -/
lemma functionAt_eq (f : Nat) : s'.functionAt f =
    ((s.functions.toList ++ decl.methods.map (.ofMethod s.classes.size))[f]?).getD default := by
  rw [functionAt, ← Array.getElem?_toList, h.functions]

/-- The class comes on top of the others. -/
lemma enlarges : s.Enlarges s' where
  classes := Nat.le.intro h.classes.symm
  functions := Nat.le.intro h.functions_size.symm
  classAt := h.old
  functionAt f lt := by
    rw [h.functionAt_eq, List.getElem?_append_left lt, Array.getElem?_toList, ← functionAt]

/-- The methods have become functions in their order. -/
lemma functionAt_new (k : Nat) (lt : k < decl.methods.length) :
    s'.functionAt (s.functions.size + k) = .ofMethod s.classes.size decl.methods[k] := by
  have old : s.functions.toList.length = s.functions.size := Array.length_toList
  rw [h.functionAt_eq, List.getElem?_append_right (old ▸ Nat.le_add_right ..), old,
    Nat.add_sub_cancel_left, List.getElem?_map, List.getElem?_eq_getElem lt]
  rfl

/-- The class has the methods that it declares. -/
lemma method (distinct : (decl.methods.map FunctionDecl.name).Nodup) {method : Function}
    (mem : method ∈ decl.methods) : ∃ f, s'.Overrides s.classes.size method f := by
  obtain ⟨k, lt, rfl⟩ := List.getElem_of_mem mem
  refine ⟨s.functions.size + k, ?_, ?_, h.functionAt_new k lt⟩
  · rw [h.new]
    exact MethodTable.get?_extend distinct _ lt
  · exact Nat.lt_of_lt_of_eq (Nat.add_lt_add_left lt _) h.functions_size.symm

/-- The name of the class means it. -/
lemma lookupClass? : s'.lookupClass? decl.name = some s.classes.size := by
  rw [Session.lookupClass?, h.globals, if_pos rfl]

end Introduces

/-- The parent that the declaration names, if it names one, is this class. -/
def Finds (s : Session) (decl : Class) (parent : Option ClassId) : Prop :=
  decl.parent.map s.lookupClass? = parent.map some

/-- Where the declaration names no parent, or a class that is known, the parent is found. -/
lemma Finds.done {decl : Class} {parent : Option ClassId} (h : s.Finds decl parent)
    (why : ReasonId) : findParent decl why s = .done parent s := by
  rw [Finds] at h
  cases names : decl.parent with
  | none =>
    obtain rfl : parent = none := by simpa [names] using h.symm
    simp only [findParent, names]
    rfl
  | some name =>
    obtain ⟨id, rfl, found⟩ : ∃ id, parent = some id ∧ some id = s.lookupClass? name := by
      simpa [names] using h.symm
    simp only [findParent, names, Bind.bind, Action.ask, ← found]
    rfl

section

variable {config : Config} {console : Console} {taken : List String} {decl : Class}
  {parent : Option ClassId}

/-- A program declares a class. -/
lemma Outside.declaresClass (h : s.Outside config taken console) (steps : Nat)
    (new : decl.name ∉ taken) (finds : s.Finds decl parent)
    (distinct : (decl.methods.map FunctionDecl.name).Nodup) (loc : Location) (rest : Program) :
    ∃ why s', s'.Outside config (decl.name :: taken) console ∧ s.Introduces decl parent why s' ∧
      Because.runProgram (.within (steps + 1)) (.declareClass loc decl :: rest) s =
        Because.runProgram (.within (steps + 1)) rest s' := by
  obtain ⟨s', ⟨why, outside, introduces⟩, runs⟩ :=
    h.next (steps + 1) rest (R := fun s' => ∃ why, s'.Outside config (decl.name :: taken) console ∧
      s.Introduces decl parent why s') fun now why top notes recorded => by
    have finds : now.Finds decl parent := by
      rw [Finds, notes.same]
      exact finds
    obtain ⟨s', done, introduces⟩ := declareClass_done top.works.made (finds.done why)
      (top.free _ new) distinct
    have ends : Because.exec (steps + 1) (.declareClass loc decl) why now = .done .normal s' := by
      change (declareClass decl why >>= fun _ => pure Flow.normal) now = _
      rw [Action.bind_done done]
      rfl
    have others {name : String} (ne : name ≠ decl.name) : s'.global? name = now.global? name := by
      rw [introduces.globals, if_neg ne]
    refine ⟨s', ends, why, {
      toHealthy := (top.toHealthy.exec recorded ends).1
      names := fun builtin => ?_
      entered := introduces.quiet.entered.trans top.entered
      calls := introduces.quiet.calls.trans top.calls
      shows := introduces.quiet.console.trans top.shows
      builtins := fun builtin => List.mem_cons_of_mem _ (top.builtins builtin)
      free := fun name other => ?_ }, introduces.after notes⟩
    · have ne : builtin.name ≠ decl.name := fun same => new (same ▸ top.builtins builtin)
      rw [Names, lookupClass?, others ne]
      exact top.names builtin
    · obtain ⟨ne, free⟩ := not_or.1 (List.mem_cons.not.1 other)
      exact (congrArg Option.isSome (others ne)).trans (top.free name free)
  exact ⟨why, s', outside, introduces, runs⟩

end

end Session

end Because
