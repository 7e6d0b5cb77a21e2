import Because.Proofs.Chronicle.Mutation
import Because.Proofs.Text.Readback

/-!
# Keys of dictionaries

Texts, numbers and truth values are the same key if they have the same content, other objects if
they are the same object, and values that are no objects if they are equal. This is how keys compare,
and it is no different from comparing what the keys are called and what they are shown as. A key
stays the key that it is.
-/

namespace Because

/-! ## Texts of integers -/

namespace Text

/-- The integer that a text of digits denotes, perhaps with a minus before them. -/
def readInt? (text : String) : Option Int :=
  match text.toList with
  | '-' :: digits => (readDigits? digits).map fun n => -(n : Int)
  | digits => (readDigits? digits).map Int.ofNat

/-- An integer is read from its text. -/
lemma readInt?_toString (n : Int) : readInt? (toString n) = some n := by
  cases n with
  | ofNat n =>
    have digits : (toString (Int.ofNat n)).toList = Nat.toDigits 10 n := by
      change (toString n).toList = _
      simp
    unfold readInt?
    rw [digits]
    split
    · rename_i rest same
      have minus : '-' ∈ Nat.toDigits 10 n := same ▸ List.mem_cons_self
      exact absurd (Nat.isDigit_of_mem_toDigits (by decide) (by decide) minus) (by decide)
    · rw [readDigits?_toDigits, Option.map_some]
  | negSucc n =>
    have digits : (toString (Int.negSucc n)).toList = '-' :: Nat.toDigits 10 (n + 1) := by
      change ("-" ++ toString (n + 1)).toList = _
      simp
    simp only [readInt?, digits, readDigits?_toDigits]
    rfl

/-- Different integers are written differently. -/
lemma toString_int_inj {m n : Int} (same : toString m = toString n) : m = n := by
  have read := congrArg readInt? same
  rw [readInt?_toString, readInt?_toString] at read
  exact Option.some.inj read

/-- Different natural numbers are written differently. -/
lemma toString_nat_inj {m n : Nat} (same : toString m = toString n) : m = n :=
  Int.ofNat.inj (toString_int_inj (m := Int.ofNat m) (n := Int.ofNat n) same)

end Text

/-- Different states of a number are written differently. -/
lemma numberText_inj {m n : Option Int} (same : numberText m = numberText n) : m = n := by
  have none (n : Int) : numberText (some n) ≠ numberText none := by
    intro same
    have read := congrArg Text.readInt? same
    have noNumber : Text.readInt? (numberText none) = none := by decide
    rw [noNumber, numberText, Text.readInt?_toString] at read
    cases read
  match m, n with
  | some m, some n => exact congrArg some (Text.toString_int_inj same)
  | some m, .none => exact absurd same (none m)
  | .none, some n => exact absurd same.symm (none n)
  | .none, .none => rfl

/-- Different truth values are written differently. -/
lemma truthText_inj {a b : Bool} (same : truthText a = truthText b) : a = b := by
  revert same
  revert a b
  decide

/-! ## Comparing keys -/

/-- What kind of thing a value is. -/
def Value.kindName : Value → String
  | .none => "None"
  | .bool _ => "Bool"
  | .int _ => "Int"
  | .str _ => "Str"
  | .object _ => "Object"
  | .classRef _ => "Class"
  | .functionRef _ => "Function"

/-- A key in writing: what it is called, and what it is shown as. Objects that are not shown as
something else are told apart by themselves. -/
inductive WrittenKey where
  | native (className text : String)
  | host (kind text : String)
  | object (scope : ScopeId)

/-- A key in writing. -/
def Key.written : Key → WrittenKey
  | .text content => .native Builtin.string.name content
  | .number value => .native Builtin.num.name (numberText value)
  | .truth value => .native Builtin.bool.name (truthText value)
  | .object scope => .object scope
  | .plain value => .host value.kindName value.text

/-- Different values of one kind are shown as different texts. -/
lemma Value.text_inj {a b : Value} (kind : a.kindName = b.kindName) (text : a.text = b.text) :
    a = b := by
  cases a with
  | none => cases b <;> first | rfl | exact absurd kind (by simp [kindName])
  | bool =>
    cases b with
    | bool => exact congrArg _ (truthText_inj text)
    | _ => exact absurd kind (by simp [kindName])
  | int =>
    cases b with
    | int => exact congrArg _ (Text.toString_int_inj text)
    | _ => exact absurd kind (by simp [kindName])
  | str =>
    cases b with
    | str => exact congrArg _ text
    | _ => exact absurd kind (by simp [kindName])
  | object =>
    cases b with
    | object => exact congrArg _ (Text.toString_nat_inj ((String.append_right_inj _).1 text))
    | _ => exact absurd kind (by simp [kindName])
  | classRef =>
    cases b with
    | classRef => exact congrArg _ (Text.toString_nat_inj ((String.append_right_inj _).1 text))
    | _ => exact absurd kind (by simp [kindName])
  | functionRef =>
    cases b with
    | functionRef => exact congrArg _ (Text.toString_nat_inj ((String.append_right_inj _).1 text))
    | _ => exact absurd kind (by simp [kindName])

/-- Different keys are written differently. -/
lemma Key.written_inj {a b : Key} (same : a.written = b.written) : a = b := by
  cases a with
  | text =>
    cases b with
    | text => exact congrArg _ (WrittenKey.native.inj same).2
    | number | truth => exact absurd (WrittenKey.native.inj same).1 (by decide)
    | _ => cases same
  | number =>
    cases b with
    | number => exact congrArg _ (numberText_inj (WrittenKey.native.inj same).2)
    | text | truth => exact absurd (WrittenKey.native.inj same).1 (by decide)
    | _ => cases same
  | truth =>
    cases b with
    | truth => exact congrArg _ (truthText_inj (WrittenKey.native.inj same).2)
    | text | number => exact absurd (WrittenKey.native.inj same).1 (by decide)
    | _ => cases same
  | object =>
    cases b with
    | object => exact congrArg _ (WrittenKey.object.inj same)
    | _ => cases same
  | plain =>
    cases b with
    | plain =>
      obtain ⟨kind, text⟩ := WrittenKey.host.inj same
      exact congrArg _ (Value.text_inj kind text)
    | _ => cases same

namespace Session

variable {s s' : Session} {a b : Value}

/-- The value as a key in writing, by what it is and what it is shown as in the session. -/
def writtenKey (s : Session) (value : Value) : WrittenKey :=
  match value with
  | .object scope =>
    match (s.handle? value).bind fun handle => handle.display?.map (handle.builtin.name, ·) with
    | some (className, text) => .native className text
    | none => .object scope
  | plain => .host plain.kindName plain.text

/-- The written key of a value is how its key is written. -/
lemma writtenKey_eq (s : Session) (value : Value) : s.writtenKey value = (s.key value).written := by
  cases value with
  | object i =>
    simp only [writtenKey, key]
    cases s.handle? (.object i) with
    | none => rfl
    | some handle => cases handle <;> rfl
  | _ => rfl

/-- The values are the same key: objects of texts, numbers or truth values with the same content, or
the same object, or equal values that are no objects. -/
inductive SameKey (s : Session) : Value → Value → Prop where
  | text {a b content why why'} : s.textOf? a = some (content, why) →
    s.textOf? b = some (content, why') → SameKey s a b
  | number {a b number why why'} : s.numberOf? a = some (number, why) →
    s.numberOf? b = some (number, why') → SameKey s a b
  | truth {a b truth why why'} : s.truthOf? a = some (truth, why) →
    s.truthOf? b = some (truth, why') → SameKey s a b
  | object (i : ScopeId) : SameKey s (.object i) (.object i)
  | plain {value : Value} : value.scope? = none → SameKey s value value

/-- What makes a value the key that it is. -/
inductive IsKey (s : Session) : Value → Key → Prop where
  | text {value content why} : s.textOf? value = some (content, why) → IsKey s value (.text content)
  | number {value number why} : s.numberOf? value = some (number, why) →
    IsKey s value (.number number)
  | truth {value truth why} : s.truthOf? value = some (truth, why) → IsKey s value (.truth truth)
  | object (i : ScopeId) : IsKey s (.object i) (.object i)
  | plain {value : Value} : value.scope? = none → IsKey s value (.plain value)

/-- What a value is as a key says how it compares to others. -/
lemma isKey (s : Session) (value : Value) : s.IsKey value (s.key value) := by
  cases value with
  | object i =>
    cases state : s.handle? (.object i) with
    | none =>
      simp only [key, state, Option.map_none, Option.getD_none]
      exact .object i
    | some handle =>
      simp only [key, state, Option.map_some, Option.getD_some]
      cases handle with
      | text content why =>
        have is : s.textOf? (.object i) = some (content, why) := by simp only [textOf?, state]
        exact .text is
      | number number why =>
        have is : s.numberOf? (.object i) = some (number, why) := by simp only [numberOf?, state]
        exact .number is
      | truth truth why =>
        have is : s.truthOf? (.object i) = some (truth, why) := by simp only [truthOf?, state]
        exact .truth is
      | list | dict => exact .object i
  | _ => exact .plain rfl

/-- An object with a state is the key that its state makes it. -/
lemma key_of_state {value : Value} {handle : Handle} (state : s.handle? value = some handle) :
    ∃ i, s.key value = handle.key i := by
  cases value with
  | object i =>
    refine ⟨i, ?_⟩
    simp only [key, state, Option.map_some, Option.getD_some]
  | _ => cases state

/-- An object that holds a text is this text as a key. -/
lemma key_of_text {value : Value} {content : String} {why : ReasonId}
    (is : s.textOf? value = some (content, why)) : s.key value = .text content := by
  unfold textOf? at is
  split at is
  · rename_i state
    obtain ⟨i, same⟩ := key_of_state state
    cases is
    exact same
  · cases is

/-- An object that holds a number is this number as a key. -/
lemma key_of_number {value : Value} {number : Option Int} {why : ReasonId}
    (is : s.numberOf? value = some (number, why)) : s.key value = .number number := by
  unfold numberOf? at is
  split at is
  · rename_i state
    obtain ⟨i, same⟩ := key_of_state state
    cases is
    exact same
  · cases is

/-- An object that holds a truth value is this truth value as a key. -/
lemma key_of_truth {value : Value} {truth : Bool} {why : ReasonId}
    (is : s.truthOf? value = some (truth, why)) : s.key value = .truth truth := by
  unfold truthOf? at is
  split at is
  · rename_i state
    obtain ⟨i, same⟩ := key_of_state state
    cases is
    exact same
  · cases is

/-- How keys compare. -/
theorem key_eq_iff : s.key a = s.key b ↔ s.SameKey a b := by
  constructor
  · intro same
    have first := s.isKey a
    have second := s.isKey b
    rw [same] at first
    generalize s.key b = key at first second
    cases first with
    | text is => cases second with | text is' => exact .text is is'
    | number is => cases second with | number is' => exact .number is is'
    | truth is => cases second with | truth is' => exact .truth is is'
    | object i => cases second with | object => exact .object i
    | plain none => cases second with | plain => exact .plain none
  · intro same
    cases same with
    | text is is' => rw [key_of_text is, key_of_text is']
    | number is is' => rw [key_of_number is, key_of_number is']
    | truth is is' => rw [key_of_truth is, key_of_truth is']
    | object | plain => rfl

/-- Keys compare as they are written. -/
lemma writtenKey_eq_iff : s.writtenKey a = s.writtenKey b ↔ s.SameKey a b := by
  rw [writtenKey_eq, writtenKey_eq, ← key_eq_iff]
  exact ⟨Key.written_inj, congrArg Key.written⟩

/-! ## Keys stay what they are -/

/-- From the one session to the other, objects are still the keys that they were. -/
structure KeepsKeys (s s' : Session) : Prop where
  scopes : s.scopes.size ≤ s'.scopes.size
  objects : ∀ i : Nat, i < s.scopes.size → s'.key (.object i) = s.key (.object i)

namespace KeepsKeys

variable {s'' : Session}

/-- Keys that are kept twice are kept. -/
lemma trans (h : s.KeepsKeys s') (h' : s'.KeepsKeys s'') : s.KeepsKeys s'' where
  scopes := Nat.le_trans h.scopes h'.scopes
  objects i lt := (h'.objects i (Nat.lt_of_lt_of_le lt h.scopes)).trans (h.objects i lt)

/-- All values that a session knows are still the keys that they were. -/
lemma key (h : s.KeepsKeys s') {value : Value} (known : value.In s.census) :
    s'.key value = s.key value := by
  cases value with
  | object i => exact h.objects i known.1
  | _ => rfl

end KeepsKeys

/-- A calm change keeps all keys. -/
lemma Calm.keepsKeys (calm : s.Calm s') : s.KeepsKeys s' where
  scopes := calm.scopes
  objects i lt := by simp only [key, handle?_of_tag (calm.tags i lt)]

end Session

/-- Only lists and dictionaries change, and these are keys by themselves. -/
lemma Handle.Changes.key {s : Session} {method : String} {args : List Value} {old new : Handle}
    (changes : Handle.Changes s method args old new) (i : ScopeId) : new.key i = old.key i := by
  unfold Handle.Changes at changes
  split at changes
  · obtain ⟨_, rfl⟩ := changes
    rfl
  · cases changes
    rfl
  · obtain ⟨_, _, _, _, rfl⟩ := changes
    rfl
  · obtain ⟨_, _, rfl⟩ := changes
    rfl
  · exact changes.elim

/-- An event keeps all keys. -/
lemma Event.keepsKeys {e : Event} (sound : e.Sound) : e.now.KeepsKeys e.after := by
  obtain ⟨i, old, new, state, ⟨_, _, _, changes⟩, same⟩ | ⟨-, same⟩ := changes_or_keeps sound
  · refine ⟨Nat.le_of_eq (same ▸ (Scopes.size_update ..).symm), fun j _ => ?_⟩
    simp only [Session.key, Session.handle?_restate state same]
    split
    · rename_i here
      subst here
      rw [state, Option.map_some, Option.map_some, changes.key]
    · rfl
  · refine ⟨Nat.le_of_eq (congrArg Scopes.size same.symm), fun j _ => ?_⟩
    simp only [Session.key, Session.handle?, Session.tag?, same]

/-- A key that has been there at some time stays the key that it is. -/
lemma Story.keepsKeys {s : Session} {log : List Event} {o : Option Session} (story : Story s log o)
    (sound : ∀ e ∈ log, e.Sound) :
    (s :: (log.map Event.now ++ o.toList)).Pairwise Session.KeepsKeys :=
  story.pairwise Session.KeepsKeys.trans Session.Calm.keepsKeys fun e mem =>
    Event.keepsKeys (sound e mem)

end Because
