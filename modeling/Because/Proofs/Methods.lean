import Because.Proofs.Orderly.Run

/-!
# Method tables

A class copies the table of its parent when it is declared, and its own methods are added to the
copy one after the other. The methods themselves stay where they have been declared, in the scope of
their class. At every moment the two agree: the table answers with what the nearest class that binds
the name binds to it.
-/

namespace Because

open Session

namespace Session

/-- The class itself binds the name of a method. -/
def BindsMethod (s : Session) (id : ClassId) (method : String) : Prop :=
  s.scopes.binds (s.classAt id).implScope method = true

/-- Among a class, its parent, the parent of that and so on, the nearest one that binds the name. -/
inductive Nearest (s : Session) (method : String) : ClassId → ClassId → Prop where
  | here {id} : s.BindsMethod id method → Nearest s method id id
  | above {id parent owner} : ¬ s.BindsMethod id method → (s.classAt id).parent = some parent →
    Nearest s method parent owner → Nearest s method id owner

/-- Parents are older than their children. The table of a class has for each name the function that
the nearest class binds to it, and nothing if no class does. -/
structure TablesAgree (s : Session) : Prop where
  older : ∀ id parent : Nat, (s.classAt id).parent = some parent → parent < id
  entry : ∀ id : Nat, id < s.classes.size → ∀ method function,
    (s.classAt id).methods.get? method = some function ↔
      ∃ owner why, s.Nearest method id owner ∧
        s.scopes.local? (s.classAt owner).implScope method = some ⟨.functionRef function, why⟩
  absent : ∀ id : Nat, id < s.classes.size → ∀ method,
    (∀ ancestor ∈ s.lineage id, ¬ s.BindsMethod ancestor method) →
      (s.classAt id).methods.get? method = none

variable {s : Session} {names : String → Prop} {id : ClassId} {method : String}

/-- A class binds a method exactly if its scope has a variable of this name. -/
lemma bindsMethod_iff :
    s.BindsMethod id method ↔ ∃ info, s.scopes.local? (s.classAt id).implScope method = some info :=
  Option.isSome_iff_exists

/-- A class has a function of its own for a method exactly if its scope binds the name to it. -/
lemma ownMethod_iff {function : FunctionId} : s.ownMethod? id method = some function ↔
    ∃ why, s.scopes.local? (s.classAt id).implScope method = some ⟨.functionRef function, why⟩ := by
  unfold ownMethod?
  split
  · rename_i function' why bound
    rw [bound]
    constructor
    · rintro ⟨⟩
      exact ⟨why, rfl⟩
    · rintro ⟨_, ⟨⟩⟩
      rfl
  · rename_i other
    constructor
    · rintro ⟨⟩
    · rintro ⟨why, bound⟩
      exact absurd bound (other function why)

/-- A name that a class binds is the name of a method. -/
lemma ClassOrderly.ownMethod_none (h : s.ClassOrderly id) :
    s.ownMethod? id method = none ↔ ¬ s.BindsMethod id method := by
  rw [bindsMethod_iff]
  constructor
  · rintro none ⟨⟨value, why⟩, bound⟩
    obtain ⟨function, rfl, -⟩ := h.own method _ bound
    rw [ownMethod_iff.2 ⟨why, bound⟩] at none
    cases none
  · intro unbound
    refine Option.eq_none_iff_forall_ne_some.2 fun function own => unbound ?_
    obtain ⟨why, bound⟩ := ownMethod_iff.1 own
    exact ⟨_, bound⟩

namespace Orderly

variable (h : s.Orderly names)

include h

/-- What the table of a class has is bound by the nearest class. -/
lemma nearest_of_table (lt : Nat.lt id s.classes.size) {function : FunctionId}
    (found : (s.classAt id).methods.get? method = some function) :
    ∃ owner why, s.Nearest method id owner ∧
      s.scopes.local? (s.classAt owner).implScope method = some ⟨.functionRef function, why⟩ := by
  induction id using h.rooted.class_induction with
  | step id ih =>
    rw [(h.classes id lt).table] at found
    obtain own | ⟨none, inherited⟩ := Option.or_eq_some_iff.1 found
    · obtain ⟨why, bound⟩ := ownMethod_iff.1 own
      exact ⟨id, why, .here (bindsMethod_iff.2 ⟨_, bound⟩), bound⟩
    · obtain ⟨parent, above, inherited⟩ := Option.bind_eq_some_iff.1 inherited
      have older := h.rooted.classes id parent above
      obtain ⟨owner, why, nearest, bound⟩ := ih parent above (Nat.lt_trans older lt) inherited
      exact ⟨owner, why, .above ((h.classes id lt).ownMethod_none.1 none) above nearest, bound⟩

/-- What the nearest class binds is in the table of the class. -/
lemma table_of_nearest (lt : Nat.lt id s.classes.size) {owner : ClassId} {function : FunctionId}
    {why : ReasonId} (nearest : s.Nearest method id owner)
    (bound : s.scopes.local? (s.classAt owner).implScope method =
      some ⟨.functionRef function, why⟩) :
    (s.classAt id).methods.get? method = some function := by
  induction nearest with
  | here =>
    rw [(h.classes _ lt).table, ownMethod_iff.2 ⟨why, bound⟩, Option.some_or]
  | @above id parent owner unbound above nearest ih =>
    have older := h.rooted.classes id parent above
    rw [(h.classes _ lt).table, (h.classes _ lt).ownMethod_none.2 unbound, Option.none_or, above,
      Option.bind_some]
    exact ih (Nat.lt_trans older lt) bound

end Orderly

/-- The nearest class that binds the name is the class itself or lies above it. -/
lemma Nearest.mem_lineage (h : s.Rooted) {owner : ClassId} (nearest : s.Nearest method id owner) :
    owner ∈ s.lineage id ∧ s.BindsMethod owner method := by
  induction nearest with
  | here binds => exact ⟨h.mem_lineage_self _, binds⟩
  | above _ parent _ ih => exact ⟨h.mem_lineage_of_parent parent ih.1, ih.2⟩

/-- In an orderly session tables and scopes agree. -/
lemma Orderly.tablesAgree (h : s.Orderly names) : s.TablesAgree where
  older := h.rooted.classes
  entry id lt method function :=
    ⟨h.nearest_of_table lt, fun ⟨_, _, nearest, bound⟩ => h.table_of_nearest lt nearest bound⟩
  absent id lt method none := by
    refine Option.eq_none_iff_forall_ne_some.2 fun function found => ?_
    obtain ⟨owner, why, nearest, -⟩ := h.nearest_of_table lt found
    obtain ⟨mem, binds⟩ := nearest.mem_lineage h.rooted
    exact none owner mem binds

/-- In sessions that can come about, and at every moment of a run in them, the tables of all classes
agree with the methods that they and the classes above them bind, also when a declaration has failed
half way. -/
theorem Reachable.tables_agree (h : s.Reachable) (steps : Nat) (program : Program) :
    s.TablesAgree ∧ s.Throughout steps program fun _ now => now.TablesAgree :=
  ⟨h.inOrder.tablesAgree, h.throughout steps program fun inOrder _ => inOrder.tablesAgree⟩

/-- A program that fails while it declares a class, in a new session: the class has two methods of
one name, which a function has as well. -/
theorem Reachable.tables_agree_of_start :
    (Session.start {} {}).Reachable ∧
    (Session.start {} {}).Throughout 2
      [.declareFunction .builtin ⟨"greet", [], [], .builtin⟩,
        .declareClass .builtin ⟨"Twice", some "List", [], [⟨"greet", [selfName], [], .builtin⟩,
          ⟨"greet", [selfName], [], .builtin⟩]⟩] fun _ now => now.TablesAgree :=
  have reachable := Reachable.start {} {}
  ⟨reachable, (reachable.tables_agree 2 _).2⟩

end Session

end Because
