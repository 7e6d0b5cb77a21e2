import Because.Proofs.Comparison.Run
import Because.Proofs.Reachable

/-!
# Comparing runs under two limits

A run compared with the same run under another limit on the depth of calls; or with itself, if the
limit stays. Everything that a session holds is the same in both, so that nothing needs to be
known of it, and every census will do.
-/

namespace Because

/-- The same session under another limit on the depth of calls. -/
def Session.relimit (f : Option Nat → Option Nat) (s : Session) : Session :=
  { s with
    config := { s.config with maxDepth := f s.config.maxDepth }
    calls := { s.calls with limit := f s.calls.limit } }

/-- The same end, in a changed session. -/
def Outcome.mapSession {ε α : Type} (g : Session → Session) : Outcome ε α → Outcome ε α
  | .done x s => .done x (g s)
  | .failed e s => .failed e (g s)
  | .exhausted => .exhausted

/-- A session under its own limit is the session itself. -/
lemma Outcome.mapSession_id {ε α : Type} (o : Outcome ε α) :
    o.mapSession (Session.relimit id) = o := by
  cases o <;> rfl

/-- What two runs leave behind that end alike, and may not escape, corresponds. -/
lemma Comparison.Ends.leaves {C : Comparison} {ε α β : Type} {E : ErrorRel ε} {c : Census}
    {s t t' : Session} {Q : Census → α → β → Prop} {o : Outcome ε α} {o' : Outcome ε β}
    (h : C.Ends E c s t Q o o') (never : ∀ e, ¬ E.escapes e) (left : o'.session? = some t') :
    ∃ d s', C.Pair d s' t' := by
  cases h with
  | done _ pair _ _ _ | failed _ pair _ _ _ =>
    cases left
    exact ⟨_, _, pair⟩
  | exhausted _ => cases left
  | escaped _ escapes => exact (never _ escapes).elim

/-- Every census is part of the census of everything. -/
lemma Census.le_all (c : Census) : c.Le .all :=
  ⟨fun _ => trivial, fun _ => trivial, fun _ => trivial, fun _ => trivial, fun _ => trivial⟩

/-- Every value lies in the census of everything. -/
lemma Value.in_all (v : Value) : v.In .all := by
  cases v <;> trivial

/-- Every session lies in the census of everything. -/
lemma Session.in_all (s : Session) : s.In .all := by
  have info (i : Justified) : i.In .all := ⟨i.value.in_all, trivial⟩
  have key (k : Key) : k.In .all := by
    cases k with
    | plain v => exact v.in_all
    | _ => trivial
  have handle (h : Handle) : h.In .all := by
    cases h with
    | list => exact fun i _ => info i
    | dict => exact ⟨fun k _ => key k, fun entry _ => ⟨info _, info _⟩⟩
    | _ => trivial
  have tag (t : ObjectTag) : t.In .all := ⟨trivial, fun h _ => handle h⟩
  have scope (s : Scope) : s.In .all := ⟨fun b _ => info _, fun _ _ => trivial, fun t _ => tag t⟩
  have classDef (d : ClassDef) : d.In .all :=
    ⟨fun _ _ => trivial, trivial, fun _ _ => trivial, fun _ _ => trivial⟩
  exact ⟨trivial, fun i => scope _, fun d _ => classDef d, fun _ _ _ _ => trivial,
    fun _ _ => trivial, fun _ _ _ _ => trivial⟩

namespace Comparison

/-- The comparison with the same run under another limit, along which the calls in progress
satisfy `ok`. -/
def relimited (f : Option Nat → Option Nat) (ok : CallStack → Prop) (fault escape : Fault → Prop) :
    Comparison where
  rename := id
  own _ := True
  holds _ s t := t = s.relimit f ∧ ok s.calls
  fault := fault
  escape := escape
  tires := True
  shows := True
  body _ := True

variable {f : Option Nat → Option Nat} {ok : CallStack → Prop} {fault escape : Fault → Prop}

/-- A comparison of runs under two limits admits every statement. -/
lemma relimited_admits : (relimited f ok fault escape).Admits :=
  ⟨trivial, trivial, fun _ => trivial⟩

/-- A session corresponds to itself under another limit. -/
lemma relimited_pair {s : Session} (h : ok s.calls) (c : Census) (known : s.In c) :
    (relimited f ok fault escape).Pair c s (s.relimit f) where
  known := known
  bodies _ _ _ _ := trivial
  scopes := (Scopes.rename_id _).symm
  classes := rfl
  functions := rfl
  entered := rfl
  frames := rfl
  console := rfl
  nextObject := rfl
  holds := ⟨rfl, h⟩

/-- Only the limit on the depth of calls makes a difference, whatever programs are compared. -/
lemma relimited_restrict_lawful {tires shows : Prop} {body : Stmt → Prop}
    (others : ∀ cause, (∀ n, cause ≠ .recursionLimit n) → fault cause) :
    ((relimited f ok fault escape).restrict tires shows body).Lawful where
  plain {cause} h := by
    apply others
    rintro n rfl
    exact h
  leaf := by
    intro c s t kind pair _
    obtain ⟨rfl, h⟩ := pair.holds
    exact ⟨rfl, .all, c.le_all, ⟨trivial, trivial⟩, rfl, h⟩
  record := by
    intro c s t kind supporters location pair _ _
    obtain ⟨rfl, h⟩ := pair.holds
    -- No reason is renumbered, and so the same one is recorded.
    have same : (kind.rename id, supporters.map id) = (kind, supporters) := by
      rw [Kind.rename_id, List.map_id]
    obtain ⟨hk, hs⟩ := Prod.mk.inj same
    simp only [restrict, relimited, hk, hs]
    refine .refl _ (fun cause _ => others _ nofun) ?_
    rintro ⟨id, graph⟩ -
    exact ⟨rfl, .all, c.le_all, ⟨trivial, trivial⟩, rfl, h⟩
  hide := by
    intro c s t id pair _
    obtain ⟨rfl, h⟩ := pair.holds
    exact .refl _ (fun cause _ => others _ nofun) fun graph _ => ⟨rfl, h⟩
  explain := by
    intro c s t id depth pair _ _
    obtain ⟨rfl, h⟩ := pair.holds
    exact .refl _ (fun cause _ => others _ nofun) fun _ _ => rfl
  node := by
    intro c s t id pair _ _
    obtain ⟨rfl, h⟩ := pair.holds
    exact .refl _ (fun cause _ => others _ nofun) fun _ _ => rfl
  newScope := by
    intro c s t parent description pair _
    obtain ⟨rfl, h⟩ := pair.holds
    exact ⟨.all, c.le_all, trivial, rfl, h⟩
  declare := by
    intro c s t scope name info pair _ _ _
    obtain ⟨rfl, h⟩ := pair.holds
    exact ⟨rfl, h⟩
  assign := by
    intro c s t scope owner name info pair _ _ _
    obtain ⟨rfl, h⟩ := pair.holds
    exact ⟨rfl, h⟩
  tag := by
    intro c s t scope classId number pair _ _
    obtain ⟨rfl, h⟩ := pair.holds
    exact ⟨.all, c.le_all, trivial, rfl, h⟩
  handle := by
    intro c s t scope handle pair _ _
    obtain ⟨rfl, h⟩ := pair.holds
    simp only [restrict, relimited, Handle.rename_id]
    exact ⟨rfl, h⟩
  define := by
    intro c s t function pair _
    obtain ⟨rfl, h⟩ := pair.holds
    exact ⟨.all, c.le_all, trivial, rfl, h⟩
  defineClass := by
    intro c s t classDef pair _ _
    obtain ⟨rfl, h⟩ := pair.holds
    exact ⟨.all, c.le_all, trivial, rfl, h⟩
  setMethod := by
    intro c s t id name function pair _ _
    obtain ⟨rfl, h⟩ := pair.holds
    exact ⟨rfl, h⟩
  nextObject := by
    intro c s t number pair
    obtain ⟨rfl, h⟩ := pair.holds
    exact ⟨rfl, h⟩
  console := by
    intro c s t console pair
    obtain ⟨rfl, h⟩ := pair.holds
    exact ⟨rfl, h⟩
  enter := by
    intro c s t scope pair _
    obtain ⟨rfl, h⟩ := pair.holds
    exact ⟨rfl, h⟩
  leave := by
    intro c s t pair
    obtain ⟨rfl, h⟩ := pair.holds
    exact ⟨rfl, h⟩
  endCall := by
    intro c d s t s' t' pair _ pair'
    obtain ⟨rfl, h⟩ := pair.holds
    obtain ⟨rfl, -⟩ := pair'.holds
    exact ⟨rfl, h⟩

/-- A comparison of runs under two limits respects every change of a session. -/
lemma relimited_lawful (others : ∀ cause, (∀ n, cause ≠ .recursionLimit n) → fault cause) :
    (relimited f ok fault escape).Lawful :=
  relimited_restrict_lawful others

variable {c : Census} {s t : Session}

/-- Under another limit a run ends alike, unless it escapes. -/
lemma relimited_eq {t : Session} {o o' : Outcome Failure Unit}
    (h : (relimited f ok fault escape).Ends (relimited f ok fault escape).failures c s t Same
      o o') :
    o' = o.mapSession (Session.relimit f) ∨
      ∃ failure s', o = .failed failure s' ∧ escape failure.fault := by
  cases h with
  | done _ pair _ _ same =>
    obtain ⟨rfl, -⟩ := pair.holds
    exact .inl rfl
  | @failed d s' t' e e' _ pair _ _ same =>
    obtain ⟨rfl, -⟩ := pair.holds
    obtain ⟨rfl, -, -⟩ := same
    left
    rw [show e.rename (relimited f ok fault escape).rename = e from e.rename_id]
    rfl
  | exhausted _ => exact .inl rfl
  | escaped _ h => exact .inr ⟨_, _, rfl, h⟩

/-! ## The same limit -/

/-- A run under its own limit is itself, unless it escapes. -/
lemma relimited_id_eq {o o' : Outcome Failure Unit}
    (h : (relimited id ok fault escape).Ends (relimited id ok fault escape).failures c s t Same
      o o') :
    o' = o ∨ ∃ failure s', o = .failed failure s' ∧ escape failure.fault := by
  obtain same | escapes := relimited_eq h
  · left
    rw [same, Outcome.mapSession_id]
  · exact .inr escapes

/-- Under the same limit both runs have room for a call, or none has. -/
lemma relimited_id_room
    (full : ∀ calls : CallStack, ok calls → calls.isFull = true →
      fault (.recursionLimit (calls.limit.getD 0)) ∨ escape (.recursionLimit (calls.limit.getD 0)))
    (enter : ∀ (calls : CallStack) frame, ok calls → calls.isFull = false →
      ok (calls.enter frame))
    (frame : Frame) (pair : (relimited id ok fault escape).Pair c s t) :
    (relimited id ok fault escape).Room c frame s t := by
  obtain ⟨rfl, h⟩ := pair.holds
  cases e : s.calls.isFull with
  | false => exact .room e e ⟨rfl, enter _ frame h e⟩
  | true =>
    obtain allowed | escapes := full _ h e
    · exact .full e e rfl allowed
    · exact .escaped e escapes

end Comparison

open Comparison in
/-- The functions of a new session hand over to the state of their object, and do nothing else. -/
lemma start_bodies {body : Stmt → Prop}
    (native : ∀ method params, body (.invokeNative .builtin method params)) (config : Config)
    (console : Console) : ∀ function ∈ (Session.start config console).functions,
      ∀ stmt ∈ function.body, body stmt := by
  let C := (relimited id (fun _ => True) (fun _ => True) (fun _ => False)).restrict True True body
  have lawful : C.Lawful := relimited_restrict_lawful fun _ _ => trivial
  have starts := start_sim (C := C) (c := .all) native trivial
  have bare : ∀ function ∈ (Session.blank config console).functions,
      ∀ stmt ∈ function.body, body stmt := Array.forall_mem_empty _
  have blank : C.Pair .all (Session.blank config console) (Session.blank config console) :=
    (relimited_pair (s := Session.blank config console) trivial .all
      (Session.in_all _)).restrict bare
  rw [Session.start_eq]
  generalize Builtin.all.forM declareBuiltin = action at starts ⊢
  have ends := starts _ _ blank
  generalize action (Session.blank config console) = o at ends ⊢
  cases ends with
  | done _ pair _ _ _ | failed _ pair _ _ _ => exact pair.bodies
  | exhausted _ => exact bare
  | escaped _ never => exact never.elim

end Because
