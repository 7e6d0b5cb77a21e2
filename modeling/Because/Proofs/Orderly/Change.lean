import Because.Proofs.Orderly.Later

/-!
# Changes of orderly sessions

A running program changes a session in a few ways, and each of them keeps orderly sessions orderly:
a scope is bound a name, an object gets a state, a function is kept, a scope is made and entered, a
call begins, and a class is declared with its methods one after the other. For each way it is said
how the session has grown, and what keeps it orderly.
-/

namespace Because

namespace Scopes

/-- Beyond the last scope nothing is bound. -/
lemma lt_of_binds {scopes : Scopes} {i : ScopeId} {name : String}
    (bound : scopes.binds i name = true) : Nat.lt i scopes.size := by
  apply Nat.lt_of_not_le
  intro beyond
  rw [binds, scopeAt, Array.getElem?_eq_none beyond, Option.getD_none] at bound
  cases bound

/-- A change that leaves parents alone leaves all scopes where they are. -/
lemma parent_update (scopes : Scopes) (i : ScopeId) {f : Scope → Scope}
    (same : ∀ data, (f data).parent = data.parent) (j : ScopeId) :
    (scopes.update i f).parent? j = scopes.parent? j := by
  unfold parent?
  rw [scopeAt_update]
  split
  · exact same _
  · rfl

/-- A change of the newest scope might as well have been made before it was. -/
lemma update_push (scopes : Scopes) (scope : Scope) (f : Scope → Scope) :
    (scopes.push scope).update scopes.size f = scopes.push (f scope) := by
  unfold update push size
  congr 1
  apply Array.ext_getElem?
  intro i
  simp only [Array.getElem?_modify, Array.getElem?_push]
  by_cases last : i = scopes.all.size
  · simp [last]
  · simp [last, Ne.symm last]

/-- Binding a variable takes no tag away and gives none. -/
lemma tag_bind (scopes : Scopes) (i : ScopeId) (name : String) (info : Justified) (j : ScopeId) :
    ((scopes.bind i name info).scopeAt j).tag = (scopes.scopeAt j).tag := by
  unfold Scopes.bind
  rw [scopeAt_update]
  split <;> rfl

/-- A scope that is bound a name binds it, and otherwise nothing changes. -/
lemma local_bind (scopes : Scopes) (i : ScopeId) (name : String) (info : Justified) (j : ScopeId)
    (other : String) : (scopes.bind i name info).local? j other =
      if (i = j ∧ i < scopes.size) ∧ other = name then some info else scopes.local? j other := by
  unfold Scopes.bind local?
  rw [scopeAt_update]
  split
  · rename_i here
    simp only [Assoc.get?_insert, and_iff_right here]
  · rename_i here
    simp only [here, false_and, if_false]

/-- What is bound after a new binding has been bound before, or is the new one. -/
lemma local_of_binding {scopes : Scopes} {i j : ScopeId} {name other : String}
    {info found : Justified} (h : (scopes.bind i name info).local? j other = some found) :
    scopes.local? j other = some found ∨ i = j ∧ found = info := by
  rw [local_bind] at h
  split at h
  · rename_i here
    cases h
    exact .inr ⟨here.1.1, rfl⟩
  · exact .inl h

end Scopes

namespace Session

variable {names : String → Prop} {o : Places} {s s' : Session}

/-! ## The stacks -/

/-- The sessions hold the same scopes, classes and functions. -/
structure SameStore (s s' : Session) : Prop where
  scopes : s'.scopes = s.scopes
  classes : s'.classes = s.classes
  functions : s'.functions = s.functions

/-- A session that holds the same has grown. -/
lemma SameStore.grows (same : s.SameStore s') : s.Grows o s' := by
  obtain ⟨config, graph, scopes, classes, functions, entered, calls, console, number⟩ := s'
  obtain ⟨rfl, rfl, rfl⟩ := same
  exact { Grows.refl o s with }

namespace Orderly

variable (h : s.Orderly names)

include h

/-- Only the stacks have to be looked at if nothing else changes. -/
lemma sameStore (same : s.SameStore s') (entered : ∀ i ∈ s'.entered, s.Ordinary i)
    (frames : ∀ frame ∈ s'.calls.frames, ∀ owner : Nat, frame.owner = some owner →
      owner < s.classes.size) : s'.Orderly names := by
  obtain ⟨config, graph, scopes, classes, functions, entered', calls, console, number⟩ := s'
  obtain ⟨rfl, rfl, rfl⟩ := same
  exact
    { rooted := { h.rooted with }
      global := { h.global with }
      root := h.root
      above := fun i p noImpl parent => { h.above i p noImpl parent with }
      entered := fun i mem => { entered i mem with }
      bindings := h.bindings
      handles := h.handles
      classes := fun id lt => { h.classes id lt with }
      apart := h.apart
      frames := frames
      owners := h.owners
      tidy := h.tidy }

/-- An ordinary scope may be entered. -/
lemma enterScope {i : ScopeId} (ordinary : s.Ordinary i) :
    Orderly names { s with entered := i :: s.entered } :=
  h.sameStore ⟨rfl, rfl, rfl⟩ (List.forall_mem_cons.2 ⟨ordinary, h.entered⟩) h.frames

/-- A scope may be left. -/
lemma leaveScope : Orderly names { s with entered := s.entered.tail } :=
  h.sameStore ⟨rfl, rfl, rfl⟩ (fun i mem => h.entered i (List.mem_of_mem_tail mem)) h.frames

/-- A call may begin whose method belongs to a class that has been made. -/
lemma enterCall {frame : Frame} (owner : ∀ owner : Nat, frame.owner = some owner →
    owner < s.classes.size) : Orderly names { s with calls := s.calls.enter frame } :=
  h.sameStore ⟨rfl, rfl, rfl⟩ h.entered (List.forall_mem_cons.2 ⟨owner, h.frames⟩)

/-- A call may end. -/
lemma endCall : Orderly names { s with calls := s.calls.pop } :=
  h.sameStore ⟨rfl, rfl, rfl⟩ h.entered fun frame mem => h.frames frame (List.mem_of_mem_tail mem)

end Orderly

/-! ## Bindings and states -/

/-- A scope that changes neither its place nor its kind; its bindings may change if it is an object
or open. -/
lemma updateScope_grows (i : ScopeId) {f : Scope → Scope}
    (parent : ∀ data, (f data).parent = data.parent)
    (kind : (f (s.scopes.scopeAt i)).tag.map
        (fun tag => (tag.classId, tag.handle.map Handle.builtin)) = s.kind? i)
    (keeps : ∀ name, s.scopes.binds i name = true →
      (f (s.scopes.scopeAt i)).bindings.contains name = true)
    (spared : (s.scopes.scopeAt i).tag = none → (∀ name, ¬ o i name) →
      (f (s.scopes.scopeAt i)).bindings = (s.scopes.scopeAt i).bindings)
    (locals : (s.scopes.scopeAt i).tag = none → ∀ name, ¬ o i name →
      (f (s.scopes.scopeAt i)).bindings.get? name = s.scopes.local? i name) :
    s.Grows o { s with scopes := s.scopes.update i f } where
  scopes := Nat.le_of_eq (Scopes.size_update ..).symm
  parent j _ := Scopes.parent_update _ _ parent j
  kind j _ := by
    simp only [kind?, Scopes.scopeAt_update]
    split
    · rename_i here
      obtain ⟨rfl, -⟩ := here
      exact kind
    · rfl
  classes := Nat.le_refl _
  classAt _ _ := rfl
  native _ _ := rfl
  impl _ le lt := absurd lt (Nat.not_lt.2 le)
  functions := Nat.le_refl _
  functionAt _ _ := rfl
  binds j name bound := by
    simp only [Scopes.binds, Scopes.scopeAt_update]
    split
    · rename_i here
      obtain ⟨rfl, -⟩ := here
      exact keeps name bound
    · exact bound
  spared j _ untagged shut := by
    simp only [Scopes.scopeAt_update]
    split
    · rename_i here
      obtain ⟨rfl, -⟩ := here
      exact spared untagged shut
    · rfl
  locals j name _ untagged shut := by
    simp only [Scopes.local?, Scopes.scopeAt_update]
    split
    · rename_i here
      obtain ⟨rfl, -⟩ := here
      exact locals untagged name shut
    · rfl
  tables _ _ _ := rfl

/-- A name may be bound in an object, and where it is open. -/
lemma bind_grows {i : ScopeId} {name : String}
    (place : (s.scopes.scopeAt i).tag.isSome ∨ o i name) (info : Justified) :
    s.Grows o { s with scopes := s.scopes.bind i name info } := by
  refine updateScope_grows i (fun _ => rfl) rfl (fun other bound => ?_)
    (fun untagged shut => ?_) fun untagged other shut => ?_
  · rw [Assoc.contains_insert, Bool.or_eq_true]
    exact .inr bound
  · obtain tagged | opens := place
    · rw [untagged] at tagged
      cases tagged
    · exact absurd opens (shut name)
  · obtain tagged | opens := place
    · rw [untagged] at tagged
      cases tagged
    · have differs : other ≠ name := by
        rintro rfl
        exact shut opens
      simp only [Assoc.get?_insert, if_neg differs]
      rfl

/-- The session grows if the state of an object becomes another one of the same kind. -/
lemma setHandle_grows {i : ScopeId} {handle : Handle}
    (kind : (s.kind? i).bind Prod.snd = some handle.builtin) :
    s.Grows o { s with scopes := s.scopes.update i fun data =>
      { data with tag := data.tag.map fun tag => { tag with handle := some handle } } } := by
  refine updateScope_grows i (fun _ => rfl) ?_ (fun _ bound => bound) (fun _ _ => rfl)
    fun _ _ _ => rfl
  unfold kind? at kind ⊢
  cases e : (s.scopes.scopeAt i).tag with
  | none => rfl
  | some tag =>
    rw [e] at kind
    simp only [Option.map_some, Option.bind_some] at kind ⊢
    rw [kind]

namespace Orderly

variable (h : s.Orderly names)

include h

/-- A fitting value may be bound in a scope that holds no methods of a class. -/
lemma bindScope {i : ScopeId} {name : String} {info : Justified}
    (noImpl : ¬ s.IsImpl i) (fits : info.value.Fits s) :
    Orderly names { s with scopes := s.scopes.bind i name info } := by
  -- The scope counts as open, whichever it is.
  have grows : s.Grows (fun j _ => j = i) { s with scopes := s.scopes.bind i name info } :=
    bind_grows (.inr rfl) info
  refine h.grow grows (h.rooted.updateScope i fun _ => rfl) ?_ ?_ ?_ ?_ ?_ ?_ ?_ ?_
  · intro j le lt
    exact absurd lt (Nat.not_lt.2 (Nat.le_trans (Nat.le_of_eq (Scopes.size_update ..)) le))
  · exact fun j mem => .inl mem
  · intro j other found _ bound
    exact (Scopes.local_of_binding bound).imp_right fun ⟨_, same⟩ => same ▸ fits.grows grows
  · intro j tag handle tagged _
    rw [Scopes.tag_bind] at tagged
    exact .inl tagged
  · exact h.classes_grow grows fun id lt _ here => noImpl ⟨id, lt, here⟩
  · exact fun id id' _ le lt => absurd lt (Nat.not_lt.2 le)
  · exact fun frame mem => .inl mem
  · exact fun f le lt => absurd lt (Nat.not_lt.2 le)

/-- An object gets a state of the kind that it has. -/
lemma setHandle {i : ScopeId} {handle : Handle}
    (kind : (s.kind? i).bind Prod.snd = some handle.builtin) (fits : handle.Fits s) :
    Orderly names { s with scopes := s.scopes.update i fun data =>
      { data with tag := data.tag.map fun tag => { tag with handle := some handle } } } := by
  have grows := setHandle_grows (o := fun _ _ => False) kind
  refine h.grow grows (h.rooted.updateScope i fun _ => rfl) ?_ ?_ ?_ ?_ ?_ ?_ ?_ ?_
  · intro j le lt
    exact absurd lt (Nat.not_lt.2 (Nat.le_trans (Nat.le_of_eq (Scopes.size_update ..)) le))
  · exact fun j mem => .inl mem
  · intro j name info _ bound
    simp only [Scopes.local?, Scopes.scopeAt_update] at bound
    split at bound <;> exact .inl bound
  · intro j tag old tagged holds
    rw [Scopes.scopeAt_update] at tagged
    split at tagged
    · obtain ⟨tag', -, rfl⟩ := Option.map_eq_some_iff.1 tagged
      cases holds
      exact .inr (fits.grows grows)
    · exact .inl tagged
  · exact h.classes_grow grows fun _ _ _ => id
  · exact fun id id' _ le lt => absurd lt (Nat.not_lt.2 le)
  · exact fun frame mem => .inl mem
  · exact fun f le lt => absurd lt (Nat.not_lt.2 le)

end Orderly

/-! ## New scopes -/

/-- The session with one more scope. -/
def withScope (s : Session) (scope : Scope) : Session :=
  { s with scopes := s.scopes.push scope }

/-- A new scope comes after the others. -/
lemma scopeAt_withScope (s : Session) (scope : Scope) (i : ScopeId) :
    (s.withScope scope).scopes.scopeAt i =
      if i = s.scopes.size then scope else s.scopes.scopeAt i :=
  Scopes.scopeAt_push ..

/-- A session grows by a scope. -/
lemma withScope_grows (s : Session) (scope : Scope) : s.Grows o (s.withScope scope) where
  scopes := Nat.le.intro (Scopes.size_push ..).symm
  parent i lt := by
    simp only [Scopes.parent?, scopeAt_withScope, if_neg (Nat.ne_of_lt lt)]
  kind i lt := by
    simp only [kind?, scopeAt_withScope, if_neg (Nat.ne_of_lt lt)]
  classes := Nat.le_refl _
  classAt _ _ := rfl
  native _ _ := rfl
  impl _ le lt := absurd lt (Nat.not_lt.2 le)
  functions := Nat.le_refl _
  functionAt _ _ := rfl
  binds i name bound := by
    have lt : Nat.lt i s.scopes.size := Scopes.lt_of_binds bound
    simp only [Scopes.binds, scopeAt_withScope, if_neg (Nat.ne_of_lt lt)]
    exact bound
  spared i lt _ _ := by
    simp only [scopeAt_withScope, if_neg (Nat.ne_of_lt lt)]
  locals i name lt _ _ := by
    simp only [Scopes.local?, scopeAt_withScope, if_neg (Nat.ne_of_lt lt)]
  tables _ _ _ := rfl

namespace Orderly

variable (h : s.Orderly names)

include h

/-- A scope is made below an ordinary one. -/
lemma withScope {scope : Scope} {p : ScopeId} (parent : scope.parent = some p)
    (ordinary : s.Ordinary p)
    (bindings : ∀ name info, scope.bindings.get? name = some info → info.value.Fits s)
    (handle : ∀ tag handle, scope.tag = some tag → tag.handle = some handle → handle.Fits s) :
    (s.withScope scope).Orderly names := by
  have grows : s.Grows (fun _ _ => False) (s.withScope scope) := withScope_grows s scope
  have rooted : (s.withScope scope).Rooted := by
    refine h.rooted.pushScope fun p' above => ?_
    cases parent.symm.trans above
    exact ordinary.made
  refine h.grow grows rooted ?_ ?_ ?_ ?_ ?_ ?_ ?_ ?_
  · intro j le lt
    obtain rfl : j = s.scopes.size :=
      Nat.le_antisymm (Nat.le_of_lt_succ (Nat.lt_of_lt_of_eq lt (Scopes.size_push ..))) le
    refine ⟨p, ?_, fun _ => grows.ordinary ordinary⟩
    simp only [Scopes.parent?, scopeAt_withScope, if_true]
    exact parent
  · exact fun j mem => .inl mem
  · intro j name info _ bound
    simp only [Scopes.local?, scopeAt_withScope] at bound
    split at bound
    · exact .inr ((bindings name info bound).grows grows)
    · exact .inl bound
  · intro j tag old tagged holds
    rw [scopeAt_withScope] at tagged
    split at tagged
    · exact .inr ((handle tag old tagged holds).grows grows)
    · exact .inl tagged
  · exact h.classes_grow grows fun _ _ _ => id
  · exact fun id id' _ le lt => absurd lt (Nat.not_lt.2 le)
  · exact fun frame mem => .inl mem
  · exact fun f le lt => absurd lt (Nat.not_lt.2 le)

/-- A new scope is ordinary unless it is an object: classes have older scopes for their methods. -/
lemma ordinary_new {scope : Scope} (untagged : scope.tag = none) :
    (s.withScope scope).Ordinary s.scopes.size where
  made := Nat.lt_of_lt_of_eq (Nat.lt_succ_self _) (Scopes.size_push ..).symm
  untagged := (congrArg Scope.tag ((scopeAt_withScope ..).trans (if_pos rfl))).trans untagged
  noImpl := by
    rintro ⟨id, lt, same⟩
    exact Nat.ne_of_lt (h.implScope_lt id lt) same

end Orderly

/-! ## Functions -/

/-- The session with one more function. -/
def withFunction (s : Session) (function : FunctionDef) : Session :=
  { s with functions := s.functions.push function }

/-- A new function comes after the others. -/
lemma functionAt_withFunction (s : Session) (function : FunctionDef) (f : FunctionId) :
    (s.withFunction function).functionAt f =
      if f = s.functions.size then function else s.functionAt f := by
  simp only [functionAt, withFunction, Array.getElem?_push]
  split <;> rfl

/-- A session grows by a function. -/
lemma withFunction_grows (s : Session) (function : FunctionDef) :
    s.Grows o (s.withFunction function) where
  scopes := Nat.le_refl _
  parent _ _ := rfl
  kind _ _ := rfl
  classes := Nat.le_refl _
  classAt _ _ := rfl
  native _ _ := rfl
  impl _ le lt := absurd lt (Nat.not_lt.2 le)
  functions := Nat.le.intro (Array.size_push ..).symm
  functionAt f lt := by rw [functionAt_withFunction, if_neg (Nat.ne_of_lt lt)]
  binds _ _ bound := bound
  spared _ _ _ _ := rfl
  locals _ _ _ _ _ := rfl
  tables _ _ _ := rfl

namespace Orderly

variable (h : s.Orderly names)

include h

/-- A tidy function of a class that has been made may be recorded. -/
lemma withFunction {function : FunctionDef} (tidy : function.Tidy names)
    (owner : ∀ owner : Nat, function.owner = some owner → owner < s.classes.size) :
    (s.withFunction function).Orderly names := by
  have grows : s.Grows (fun _ _ => False) (s.withFunction function) := withFunction_grows s function
  refine h.grow grows { h.rooted with } ?_ ?_ ?_ ?_ ?_ ?_ ?_ ?_
  · exact fun j le lt => absurd lt (Nat.not_lt.2 le)
  · exact fun j mem => .inl mem
  · exact fun j name info _ bound => .inl bound
  · exact fun j tag old tagged _ => .inl tagged
  · exact h.classes_grow grows fun _ _ _ => id
  · exact fun id id' _ le lt => absurd lt (Nat.not_lt.2 le)
  · exact fun frame mem => .inl mem
  · intro f le lt
    obtain rfl : f = s.functions.size :=
      Nat.le_antisymm (Nat.le_of_lt_succ (Nat.lt_of_lt_of_eq lt (Array.size_push ..))) le
    rw [functionAt_withFunction, if_pos rfl]
    exact ⟨tidy, owner⟩

end Orderly

/-! ## Classes -/

/-- The session with one more class, and a scope for its methods. -/
def withClass (s : Session) (scope : Scope) (classDef : ClassDef) : Session :=
  { s with scopes := s.scopes.push scope, classes := s.classes.push classDef }

/-- The session in which a class has one more method. -/
def withMethod (s : Session) (id : ClassId) (name : String) (f : FunctionId) (why : ReasonId) :
    Session :=
  { s with
    scopes := s.scopes.bind (s.classAt id).implScope name ⟨.functionRef f, why⟩
    classes := s.classes.modify id fun classDef =>
      { classDef with methods := classDef.methods.insert name f } }

/-- A new class comes after the others. -/
lemma classAt_withClass (s : Session) (scope : Scope) (classDef : ClassDef) (id : ClassId) :
    (s.withClass scope classDef).classAt id =
      if id = s.classes.size then classDef else s.classAt id := by
  simp only [withClass, classAt, Array.getElem?_push]
  split <;> rfl

/-- A class that gets a method keeps all but its table, and other classes stay as they are. -/
lemma classAt_withMethod (s : Session) (id : ClassId) (name : String) (f : FunctionId)
    (why : ReasonId) (other : ClassId) :
    (s.withMethod id name f why).classAt other =
      if id = other ∧ id < s.classes.size then
        { s.classAt other with methods := (s.classAt other).methods.insert name f }
      else s.classAt other := by
  simp only [withMethod, classAt, Array.getElem?_modify]
  by_cases here : id = other
  · subst here
    by_cases lt : id < s.classes.size
    · simp [lt]
    · simp [lt]
  · simp [here]

/-- A class without methods of its own, the table of which is that of its parent, is in order. -/
lemma withClass_classOrderly {scope : Scope} {classDef : ClassDef} (empty : scope.bindings = [])
    (untagged : scope.tag = none) (impl : classDef.implScope = s.scopes.size)
    (parent : ∀ p : Nat, classDef.parent = some p → p < s.classes.size)
    (native : classDef.nativeBase = if classDef.builtin.isSome then some s.classes.size
      else classDef.parent.bind fun p => (s.classAt p).nativeBase)
    (topmost : classDef.builtin.isSome → classDef.parent = none)
    (table : ∀ method, classDef.methods.get? method =
      classDef.parent.bind fun p => (s.classAt p).methods.get? method) :
    (s.withClass scope classDef).ClassOrderly s.classes.size := by
  have self : (s.withClass scope classDef).classAt s.classes.size = classDef := by
    rw [classAt_withClass, if_pos rfl]
  have made : (s.withClass scope classDef).scopes.scopeAt s.scopes.size = scope := by
    rw [withClass, Scopes.scopeAt_push, if_pos rfl]
  have unbound (method : String) :
      (s.withClass scope classDef).scopes.local? s.scopes.size method = none := by
    rw [Scopes.local?, made, empty]
    rfl
  -- The parent of the new class is an older one, so that what the class takes from above is read in
  -- the session before.
  have above {α : Type} (f : ClassDef → Option α) :
      (classDef.parent.bind fun p => f ((s.withClass scope classDef).classAt p)) =
        classDef.parent.bind fun p => f (s.classAt p) := by
    cases e : classDef.parent with
    | none => rfl
    | some p =>
      simp only [Option.bind_some]
      rw [classAt_withClass, if_neg (Nat.ne_of_lt (parent p e))]
  refine ⟨?_, ?_, ?_, ?_, ?_, ?_⟩
  · rw [self, impl]
    exact Nat.lt_of_lt_of_eq (Nat.lt_succ_self _) (Scopes.size_push ..).symm
  · rw [self, impl, made, untagged]
  · rw [self, above ClassDef.nativeBase, native]
  · rw [self]
    exact topmost
  · intro method info found
    rw [self, impl, unbound] at found
    cases found
  · intro method
    rw [ownMethod?, self, impl, unbound, above fun classDef => classDef.methods.get? method, table]
    rfl

/-- A class may get a method in its own scope. -/
lemma withMethod_grows (id : ClassId) (name : String) (f : FunctionId)
    (why : ReasonId) :
    s.Grows (fun i _ => i = (s.classAt id).implScope) (s.withMethod id name f why) := by
  have binds : s.Grows (fun i _ => i = (s.classAt id).implScope) { s with
      scopes := s.scopes.bind (s.classAt id).implScope name ⟨.functionRef f, why⟩ } := by
    exact bind_grows (.inr rfl) _
  have data (c : ClassId) : (s.withMethod id name f why).classAt c =
      { s.classAt c with methods := ((s.withMethod id name f why).classAt c).methods } := by
    rw [classAt_withMethod]
    split <;> rfl
  exact
    { binds with
      classes := Nat.le_of_eq Array.size_modify.symm
      classAt := fun c _ => data c
      native := fun c _ => by
        unfold nativeBuiltin?
        rw [data c]
        congr 1
        funext base
        rw [data base]
      impl := fun c le lt' => absurd (Nat.lt_of_lt_of_eq lt' Array.size_modify) (Nat.not_lt.2 le)
      tables := fun c _ shut => by
        rw [classAt_withMethod, if_neg]
        rintro ⟨rfl, -⟩
        exact shut name rfl }

namespace Orderly

variable (h : s.Orderly names)

include h

/-- A session grows by a class whose methods have a new scope. -/
lemma withClass_grows {scope : Scope} {classDef : ClassDef}
    (impl : classDef.implScope = s.scopes.size) :
    s.Grows o (s.withClass scope classDef) := by
  have size : (s.classes.push classDef).size = s.classes.size + 1 := Array.size_push ..
  have old (id : Nat) (lt : id < s.classes.size) :
      (s.withClass scope classDef).classAt id = s.classAt id := by
    rw [classAt_withClass, if_neg (Nat.ne_of_lt lt)]
  exact
    { withScope_grows s scope with
      classes := Nat.le.intro size.symm
      classAt := fun id lt => by rw [old id lt]
      native := fun id lt => by
        unfold nativeBuiltin?
        rw [old id lt]
        cases e : (s.classAt id).nativeBase with
        | none => rfl
        | some base =>
          have lt' := Nat.lt_of_le_of_lt (h.nativeBase_le lt e) lt
          simp only [Option.bind_some, old base lt']
      impl := fun id le lt => by
        obtain rfl : id = s.classes.size :=
          Nat.le_antisymm (Nat.le_of_lt_succ (Nat.lt_of_lt_of_eq lt size)) le
        simp only [classAt_withClass, if_true, impl, Nat.le_refl]
      tables := fun id lt _ => by rw [old id lt] }

/-- A class is declared without methods of its own. -/
lemma withClass {scope : Scope} {classDef : ClassDef} {p : ScopeId} (empty : scope.bindings = [])
    (untagged : scope.tag = none) (hangs : scope.parent = some p) (older : p < s.scopes.size)
    (impl : classDef.implScope = s.scopes.size)
    (parent : ∀ p : Nat, classDef.parent = some p → p < s.classes.size)
    (native : classDef.nativeBase = if classDef.builtin.isSome then some s.classes.size
      else classDef.parent.bind fun p => (s.classAt p).nativeBase)
    (topmost : classDef.builtin.isSome → classDef.parent = none)
    (table : ∀ method, classDef.methods.get? method =
      classDef.parent.bind fun p => (s.classAt p).methods.get? method) :
    (s.withClass scope classDef).Orderly names := by
  have grows : s.Grows (fun _ _ => False) (s.withClass scope classDef) := h.withClass_grows impl
  have size : (s.withClass scope classDef).classes.size = s.classes.size + 1 := Array.size_push ..
  have self : (s.withClass scope classDef).classAt s.classes.size = classDef := by
    rw [classAt_withClass, if_pos rfl]
  have rooted : (s.withClass scope classDef).Rooted :=
    Rooted.pushClass (s := { s with scopes := s.scopes.push scope })
      (h.rooted.pushScope fun p' above => by cases hangs.symm.trans above; exact older) parent
  have isImpl : (s.withClass scope classDef).IsImpl s.scopes.size :=
    ⟨s.classes.size, Nat.lt_of_lt_of_eq (Nat.lt_succ_self _) size.symm, by rw [self, impl]⟩
  refine h.grow grows rooted ?_ ?_ ?_ ?_ ?_ ?_ ?_ ?_
  · intro j le lt
    obtain rfl : j = s.scopes.size :=
      Nat.le_antisymm (Nat.le_of_lt_succ (Nat.lt_of_lt_of_eq lt (Scopes.size_push ..))) le
    refine ⟨p, ?_, fun noImpl => absurd isImpl noImpl⟩
    rw [Scopes.parent?, Session.withClass, Scopes.scopeAt_push, if_pos rfl, hangs]
  · exact fun j mem => .inl mem
  · intro j name info noImpl bound
    simp only [Session.withClass, Scopes.local?, Scopes.scopeAt_push] at bound
    split at bound
    · rename_i last
      exact absurd (last ▸ isImpl) noImpl
    · exact .inl bound
  · intro j tag old tagged holds
    simp only [Session.withClass, Scopes.scopeAt_push] at tagged
    split at tagged
    · cases untagged.symm.trans tagged
    · exact .inl tagged
  · intro id lt
    obtain older' | rfl := Nat.lt_succ_iff_lt_or_eq.1 (Nat.lt_of_lt_of_eq lt size)
    · exact h.classes_grow grows (fun _ _ _ => False.elim) id older'
    · exact withClass_classOrderly empty untagged impl parent native topmost table
  · intro id id' lt le lt'
    obtain rfl : id' = s.classes.size :=
      Nat.le_antisymm (Nat.le_of_lt_succ (Nat.lt_of_lt_of_eq lt' size)) le
    rw [self, impl, grows.implScope lt]
    exact Nat.ne_of_lt (h.implScope_lt id lt)
  · exact fun frame mem => .inl mem
  · exact fun f le lt => absurd lt (Nat.not_lt.2 le)

/-- A class that gets a function which it owns as a method is in order. -/
lemma withMethod_classOrderly {id f : Nat} {name : String} (why : ReasonId)
    (lt : id < s.classes.size) (made : f < s.functions.size)
    (owner : (s.functionAt f).owner = some id) :
    (s.withMethod id name f why).ClassOrderly id := by
  have old := h.classes id lt
  have lt' : (s.classAt id).implScope < s.scopes.size := old.made
  have grows := withMethod_grows (s := s) id name f why
  have self : (s.withMethod id name f why).classAt id =
      { s.classAt id with methods := (s.classAt id).methods.insert name f } := by
    rw [classAt_withMethod, if_pos ⟨rfl, lt⟩]
  have above {α : Type} (g : ClassDef → Option α) :
      ((s.classAt id).parent.bind fun p => g ((s.withMethod id name f why).classAt p)) =
        (s.classAt id).parent.bind fun p => g (s.classAt p) := by
    cases e : (s.classAt id).parent with
    | none => rfl
    | some p =>
      simp only [Option.bind_some]
      rw [classAt_withMethod, if_neg fun here => Nat.ne_of_gt (h.rooted.classes id p e) here.1]
  refine ⟨?_, ?_, ?_, ?_, ?_, ?_⟩
  · rw [self]
    exact Nat.lt_of_lt_of_le old.made grows.scopes
  · rw [self]
    exact grows.untagged old.made old.untagged
  · rw [self, above ClassDef.nativeBase, old.native]
  · rw [self]
    exact old.topmost
  · intro method info found
    rw [self] at found
    obtain held | ⟨-, rfl⟩ := Scopes.local_of_binding found
    · exact old.own method info held
    · exact ⟨f, rfl, made, owner⟩
  · intro method
    rw [self, above fun classDef => classDef.methods.get? method, Assoc.get?_insert, old.table]
    have held : (s.withMethod id name f why).scopes.local? (s.classAt id).implScope method =
        if method = name then some ⟨.functionRef f, why⟩
        else s.scopes.local? (s.classAt id).implScope method := by
      rw [Session.withMethod, Scopes.local_bind]
      simp only [lt', true_and]
    unfold ownMethod?
    rw [self, held]
    split <;> rfl

/-- The newest class gets a method. -/
lemma withMethod {id f : Nat} {name : String} (why : ReasonId) (newest : id + 1 = s.classes.size)
    (made : f < s.functions.size) (owner : (s.functionAt f).owner = some id) :
    (s.withMethod id name f why).Orderly names := by
  have lt : id < s.classes.size := Nat.lt_of_lt_of_eq (Nat.lt_succ_self id) newest
  have grows := withMethod_grows (s := s) id name f why
  have impl : s.IsImpl (s.classAt id).implScope := ⟨id, lt, rfl⟩
  have rooted : (s.withMethod id name f why).Rooted :=
    Rooted.setMethod (s := { s with
        scopes := s.scopes.bind (s.classAt id).implScope name ⟨.functionRef f, why⟩ })
      (h.rooted.updateScope _ fun _ => rfl) id name f
  refine h.grow grows rooted ?_ ?_ ?_ ?_ ?_ ?_ ?_ ?_
  · intro j le lt
    exact absurd lt (Nat.not_lt.2 (Nat.le_trans (Nat.le_of_eq (Scopes.size_update ..)) le))
  · exact fun j mem => .inl mem
  · intro j other info noImpl bound
    obtain bound | ⟨rfl, -⟩ := Scopes.local_of_binding bound
    · exact .inl bound
    · exact absurd (grows.isImpl_of impl) noImpl
  · intro j tag handle tagged _
    rw [Session.withMethod, Scopes.tag_bind] at tagged
    exact .inl tagged
  · intro c ltc
    have ltc : c < s.classes.size := Nat.lt_of_lt_of_eq ltc Array.size_modify
    by_cases here : c = id
    · subst here
      exact h.withMethod_classOrderly why lt made owner
    · -- The class is not the newest one, and so the newest one is not its parent either.
      have shut (c' : Nat) (lt' : c' < s.classes.size) (ne : c' ≠ id) :
          (s.classAt c').implScope ≠ (s.classAt id).implScope :=
        fun same => ne (h.apart c' id lt' lt same)
      refine h.class_grows grows ltc (fun _ => shut c ltc here) fun p above _ => ?_
      have older := h.rooted.classes c p above
      exact shut p (Nat.lt_trans older ltc) (by omega)
  · exact fun c c' _ le lt' => absurd (Nat.lt_of_lt_of_eq lt' Array.size_modify) (Nat.not_lt.2 le)
  · exact fun frame mem => .inl mem
  · exact fun g le lt' => absurd lt' (Nat.not_lt.2 le)

end Orderly

end Session

end Because
