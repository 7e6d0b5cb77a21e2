import Because.Native.Invoke
import Because.Session.Start
import Mathlib.Tactic.Common

/-!
# Methods of built-in classes

The methods that a built-in class declares and those that its objects know are written down apart
from each other: once as names with parameters, and once as the work of each method. An object that
gets a declared method, with as many arguments as the method has parameters, knows it and takes the
arguments. It may fail by what the arguments are, or because the program fails that it has called.
-/

namespace Because

/-- The object does not know the method, or does not take so many arguments. -/
def NativeFault.Misfire : NativeFault → Prop
  | .unknownMethod _ | .arity _ _ _ => True
  | _ => False

namespace Native

variable {α β : Type}

/-- The work never fails because its method is not known or has other arguments. -/
structure Recognized (work : Native α) : Prop where
  noMisfire : ∀ s fault s', work s = .failed fault s' → ¬ fault.Misfire

namespace Recognized

/-- Work of two parts does not misfire if neither part does. -/
lemma bind {a : Native α} {f : α → Native β} (first : Recognized a)
    (next : ∀ x, Recognized (f x)) : Recognized (a >>= f) := by
  constructor
  intro s fault s' fails
  simp only [Bind.bind] at fails
  cases ends : a s with
  | done x now =>
    rw [ends] at fails
    exact (next x).noMisfire now fault s' fails
  | failed =>
    rw [ends] at fails
    cases fails
    exact first.noMisfire s fault s' ends
  | exhausted =>
    rw [ends] at fails
    cases fails

/-- What never fails. -/
lemma of_done {work : Native α} (done : ∀ s, ∃ x s', work s = .done x s') : Recognized work := by
  constructor
  intro s fault s' fails
  obtain ⟨x, now, ends⟩ := done s
  rw [ends] at fails
  cases fails

/-- A result that is there does not misfire. -/
lemma pure (x : α) : Recognized (Pure.pure x) := .of_done fun s => ⟨x, s, rfl⟩

/-- A question does not misfire. -/
lemma ask (f : Session → α) : Recognized (Action.ask f) := .of_done fun s => ⟨f s, s, rfl⟩

/-- A change does not misfire. -/
lemma change (f : Session → Session) : Recognized (Action.change f) :=
  .of_done fun s => ⟨(), f s, rfl⟩

/-- Recording a text does not misfire. -/
lemma text (message : String) : Recognized (Action.text message) :=
  .of_done fun _ => ⟨_, _, rfl⟩

/-- Recording an unknown reason does not misfire. -/
lemma unknown : Recognized Action.unknown := .of_done fun _ => ⟨_, _, rfl⟩

/-- Work that fails otherwise does not misfire. -/
lemma fail {fault : NativeFault} (other : ¬ fault.Misfire) :
    Recognized (Action.fail fault : Native α) := by
  constructor
  rintro _ _ _ ⟨⟩
  exact other

/-- Work of the program inside that of a method fails as a program does. -/
lemma lift (work : Eval α) : Recognized (liftM work : Native α) := by
  constructor
  intro s fault s' fails
  have fails : work.mapError .failure s = .failed fault s' := fails
  simp only [Action.mapError] at fails
  cases ends : work s with
  | failed =>
    rw [ends] at fails
    cases fails
    exact id
  | done | exhausted =>
    rw [ends] at fails
    cases fails

/-! ## Arguments -/

section

variable {method : String} {args : List Justified}

/-- Without arguments, a method that takes none does its work. -/
lemma withNone {body : Native α} (counts : args.length = 0) (h : Recognized body) :
    Recognized (withNone method args body) := by
  obtain rfl := List.length_eq_zero_iff.1 counts
  exact h

/-- With one argument, a method that takes one does its work. -/
lemma withOne {body : Justified → Native α} (counts : args.length = 1)
    (h : ∀ arg, Recognized (body arg)) : Recognized (withOne method args body) := by
  obtain ⟨arg, rfl⟩ := List.length_eq_one_iff.1 counts
  exact h arg

/-- With two arguments, a method that takes two does its work. -/
lemma withTwo {body : Justified → Justified → Native α} (counts : args.length = 2)
    (h : ∀ first second, Recognized (body first second)) :
    Recognized (withTwo method args body) := by
  match args with
  | [] | [_] | _ :: _ :: _ :: _ => cases counts
  | [first, second] => exact h first second

end

/-- What an argument has to be. -/
lemma expect {f : Session → Option α} {next : Option α → Native β} {fault : NativeFault}
    (found : ∀ x, Recognized (next (some x))) (missing : next none = Action.fail fault)
    (other : ¬ fault.Misfire) : Recognized (Action.ask f >>= next) := by
  refine .bind (.ask f) fun answer => ?_
  cases answer with
  | some x => exact found x
  | none => exact missing ▸ .fail other

/-- A missing text is no misfire. -/
lemma expectText (method : String) (info : Justified) :
    Recognized (Native.expectText method info) :=
  .expect (fun found => .pure found) rfl id

/-- A missing truth value is no misfire. -/
lemma expectTruth (method : String) (info : Justified) :
    Recognized (Native.expectTruth method info) :=
  .expect (fun found => .pure found) rfl id

/-- A missing number is no misfire. -/
lemma expectNumber (method : String) (info : Justified) :
    Recognized (Native.expectNumber method info) :=
  .expect (fun found => .pure found) rfl id

end Recognized

/-! ## Texts -/

variable (inner : Inner) (this : ScopeId) (why : ReasonId) {args : List Justified}

/-- Appending an item does not misfire. -/
lemma append_recognized (items : List Justified) (item : Justified) :
    Recognized (append this items why item) := by
  refine .bind (.ask _) fun shown => .bind (.bind (.ask _) fun _ => .pure _) fun contents => ?_
  exact .bind (.lift _) fun appended => .change _

/-- Appending the parts of a text does not misfire. -/
lemma appendParts_recognized (list : Value) (parts : List String) :
    Recognized (appendParts inner list why parts) := by
  induction parts with
  | nil => exact .pure _
  | cons part rest ih =>
    refine .bind (.lift _) fun item => .bind (.bind (.ask _) fun handle => ?_) fun _ => ih
    split
    · exact append_recognized _ why _ _
    · exact .fail id

/-- A text knows the methods that String declares. -/
lemma invokeText_recognized {method : String} {params : List String}
    (declared : (method, params) ∈ Builtin.string.methods) (counts : args.length = params.length)
    (content : String) (contentWhy : ReasonId) :
    Recognized (invokeText inner this content contentWhy method why args) := by
  simp only [Builtin.methods, List.mem_cons, Prod.mk.injEq, List.not_mem_nil, or_false] at declared
  obtain ⟨rfl, rfl⟩ | ⟨rfl, rfl⟩ | ⟨rfl, rfl⟩ | ⟨rfl, rfl⟩ | ⟨rfl, rfl⟩ := declared
  · refine .withOne counts fun separator => .bind (.expectText ..) fun sep => ?_
    refine .bind (.lift _) fun list => .bind (.lift _) fun split => ?_
    exact .bind (appendParts_recognized ..) fun _ => .pure _
  · exact .withNone counts (.pure _)
  · refine .withOne counts fun other => .bind (.expectText ..) fun theirs => ?_
    exact .bind (.lift _) fun sum => .lift _
  · refine .withOne counts fun start => .bind (.expectText ..) fun start => ?_
    exact .bind (.text _) fun reason => .lift _
  · refine .withOne counts fun other => .bind (.expectText ..) fun theirs => ?_
    exact .bind (.lift _) fun result => .lift _

/-! ## Lists -/

/-- Asking items for their texts does not misfire. -/
lemma itemTexts_recognized (items : List Justified) : Recognized (itemTexts inner why items) := by
  induction items with
  | nil => exact .pure _
  | cons item rest ih =>
    refine .bind (.lift _) fun converted => .bind (.expectText ..) fun content => ?_
    exact .bind ih fun contents => .pure _

/-- An index past the end is no misfire. -/
lemma soughtItem_recognized (list : String) (items : List Justified) (requested : Option Int) :
    Recognized (soughtItem list items requested) := by
  cases requested with
  | none => exact .bind (.text _) fun _ => .pure _
  | some index =>
    unfold soughtItem
    dsimp only
    split
    · exact .pure _
    · exact .bind (.text _) fun _ => .pure _

/-- A list knows the methods that List declares. -/
lemma invokeList_recognized {method : String} {params : List String}
    (declared : (method, params) ∈ Builtin.list.methods) (counts : args.length = params.length)
    (items : List Justified) :
    Recognized (invokeList inner this items method why args) := by
  simp only [Builtin.methods, List.mem_cons, Prod.mk.injEq, List.not_mem_nil, or_false] at declared
  obtain ⟨rfl, rfl⟩ | ⟨rfl, rfl⟩ | ⟨rfl, rfl⟩ | ⟨rfl, rfl⟩ | ⟨rfl, rfl⟩ | ⟨rfl, rfl⟩ | ⟨rfl, rfl⟩ :=
    declared
  · exact .withOne counts fun item => .bind (append_recognized ..) fun _ => .pure _
  · exact .withNone counts (.bind (.change _) fun _ => .bind .unknown fun _ => .pure _)
  · refine .withOne counts fun index => .bind (.expectNumber ..) fun requested => ?_
    dsimp only
    split
    · exact .fail id
    · refine .bind (.ask _) fun list => .bind (.ask _) fun shown => ?_
      exact .bind (.lift _) fun returned => .pure _
  · refine .withOne counts fun index => .bind (.expectNumber ..) fun requested => ?_
    refine .bind (.ask _) fun list => .bind (soughtItem_recognized ..) fun item => ?_
    exact .bind (.ask _) fun shown => .bind (.lift _) fun returned => .pure _
  · refine .withOne counts fun index => .bind (.expectNumber ..) fun requested => ?_
    dsimp only
    split
    · exact .fail id
    · exact .bind (.change _) fun _ => .bind .unknown fun _ => .pure _
  · exact .withNone counts (.bind (.ask _) fun list => .bind (.lift _) fun counted => .lift _)
  · refine .withNone counts (.bind (itemTexts_recognized ..) fun contents => ?_)
    exact .bind (.lift _) fun elements => .lift _

/-! ## Dictionaries -/

/-- A dictionary knows the methods that Dict declares. -/
lemma invokeDict_recognized {method : String} {params : List String}
    (declared : (method, params) ∈ Builtin.dict.methods) (counts : args.length = params.length)
    (entries : Ledger Key Entry) :
    Recognized (invokeDict inner this entries method why args) := by
  simp only [Builtin.methods, List.mem_cons, Prod.mk.injEq, List.not_mem_nil, or_false] at declared
  obtain ⟨rfl, rfl⟩ | ⟨rfl, rfl⟩ | ⟨rfl, rfl⟩ := declared
  · refine .withOne counts fun key => .bind (.ask _) fun shown => .bind (.ask _) fun dict => ?_
    refine .bind (.ask _) fun slot => ?_
    split
    · exact .bind (.lift _) fun missing => .pure _
    · exact .bind (.lift _) fun retrieved => .pure _
  · refine .withTwo counts fun key value => .bind (.ask _) fun dict => .bind (.ask _) fun _ => ?_
    refine .bind (.ask _) fun _ => .bind (.lift _) fun stored => .bind (.ask _) fun slot => ?_
    exact .bind (.change _) fun _ => .bind .unknown fun _ => .pure _
  · refine .withOne counts fun key => .bind (.ask _) fun shown => .bind (.ask _) fun dict => ?_
    refine .bind (.ask _) fun slot => ?_
    split
    · exact .bind (.lift _) fun answer => .lift _
    · exact .bind (.lift _) fun answer => .lift _

/-! ## Truth values and numbers -/

/-- A truth value knows the methods that Bool declares. -/
lemma invokeTruth_recognized {method : String} {params : List String}
    (declared : (method, params) ∈ Builtin.bool.methods) (counts : args.length = params.length)
    (truth : Bool) (truthWhy : ReasonId) :
    Recognized (invokeTruth inner truth truthWhy method why args) := by
  simp only [Builtin.methods, List.mem_cons, Prod.mk.injEq, List.not_mem_nil, or_false] at declared
  obtain ⟨rfl, rfl⟩ | ⟨rfl, rfl⟩ := declared
  · exact .withNone counts (.lift _)
  · refine .withOne counts fun other => .bind (.expectTruth ..) fun theirs => ?_
    exact .bind (.lift _) fun result => .lift _

/-- An overflow is no misfire. -/
lemma sum_recognized (first second : Option Int) :
    Recognized (Action.ofExcept (sum? first second)) := by
  unfold sum?
  split
  · split
    · exact .pure _
    · exact .fail id
  · exact .pure _

/-- A number knows the methods that Num declares. -/
lemma invokeNumber_recognized {method : String} {params : List String}
    (declared : (method, params) ∈ Builtin.num.methods) (counts : args.length = params.length)
    (number : Option Int) (numberWhy : ReasonId) :
    Recognized (invokeNumber inner number numberWhy method why args) := by
  simp only [Builtin.methods, List.mem_cons, Prod.mk.injEq, List.not_mem_nil, or_false] at declared
  obtain ⟨rfl, rfl⟩ | ⟨rfl, rfl⟩ | ⟨rfl, rfl⟩ | ⟨rfl, rfl⟩ := declared
  · exact .withNone counts (.lift _)
  · exact .withNone counts (.lift _)
  · refine .withOne counts fun other => .bind (.expectNumber ..) fun theirs => ?_
    exact .bind (.lift _) fun result => .lift _
  · refine .withOne counts fun other => .bind (.expectNumber ..) fun theirs => ?_
    refine .bind (sum_recognized ..) fun sum => ?_
    exact .bind (.lift _) fun sumWhy => .lift _

/-- An object with the state of a built-in class knows the methods that the class declares. -/
lemma invoke_recognized {handle : Handle} {method : String} {params : List String}
    (declared : (method, params) ∈ handle.builtin.methods) (counts : args.length = params.length) :
    Recognized (invoke inner this handle method why args) := by
  cases handle with
  | text content contentWhy => exact invokeText_recognized _ _ _ declared counts content contentWhy
  | list items => exact invokeList_recognized _ _ _ declared counts items
  | dict entries => exact invokeDict_recognized _ _ _ declared counts entries
  | truth truth truthWhy => exact invokeTruth_recognized _ _ declared counts truth truthWhy
  | number number numberWhy => exact invokeNumber_recognized _ _ declared counts number numberWhy

end Native

end Because
