import Because.Proofs.Chronicle.Call

/-!
# Chronicles of built-in methods

There are chronicles of the built-in methods that may have something run, and of those that only
look at their object. The methods that change the state of their object have none of their own:
such a change is told by the event of handing over to it.
-/

namespace Because

variable {inner : Inner} {w : Check → Inner} {method : String}

open Because.Action Native

/-! ## Arguments -/

/-- Requiring a text of an argument needs no log. -/
lemma expectText_logged (method : String) (info : Justified) :
    Bare (expectText method info) := by
  apply Logged.bind (.ask _)
  intro found
  cases found with
  | some found => exact .pure _
  | none => exact .fail _

/-- Requiring a truth value of an argument needs no log. -/
lemma expectTruth_logged (method : String) (info : Justified) :
    Bare (expectTruth method info) := by
  apply Logged.bind (.ask _)
  intro found
  cases found with
  | some found => exact .pure _
  | none => exact .fail _

/-- Requiring a number of an argument needs no log. -/
lemma expectNumber_logged (method : String) (info : Justified) :
    Bare (expectNumber method info) := by
  apply Logged.bind (.ask _)
  intro found
  cases found with
  | some found => exact .pure _
  | none => exact .fail _

section

variable {α : Type} {args : List Justified}

/-- A method that takes no argument has the log of what it does, or an empty one if it refuses. -/
lemma withNone_logged {a : Native α} {b : Check → Native α} (h : Logged a b) :
    Logged (withNone method args a) fun c => withNone method args (b c) := by
  cases args with
  | nil => exact h
  | cons => exact .fail _

/-- A method that takes one argument has the log of what it does with it, or an empty one. -/
lemma withOne_logged {f : Justified → Native α} {g : Check → Justified → Native α}
    (h : ∀ arg, Logged (f arg) fun c => g c arg) :
    Logged (withOne method args f) fun c => withOne method args (g c) := by
  match args with
  | [arg] => exact h arg
  | [] => exact .fail _
  | _ :: _ :: _ => exact .fail _

end

/-- A hidden object that a method makes. -/
lemma hidden_logged (h : inner.Logged w) (className : String) (args : List Justified)
    (why : ReasonId) :
    Logged (liftM (newHiddenObject inner className args why) : Native Justified) fun c =>
      liftM (newHiddenObject (w c) className args why) :=
  .lift (newHiddenObject_logged h className args why)

/-! ## Dictionaries -/

/-- Getting an entry of a dictionary needs no log. -/
lemma getEntry_logged (this : ScopeId) (entries : Ledger Key Entry) (why : ReasonId)
    (key : Justified) :
    Bare (getEntry this entries why key) := by
  apply Logged.bind (.ask _)
  intro shown
  apply Logged.bind (.ask _)
  intro dict
  apply Logged.bind (.ask _)
  intro slot
  split
  · apply Logged.bind (.lift (.conj _ _))
    intro missing
    exact .pure _
  · apply Logged.bind (.lift (.conj _ _))
    intro retrieved
    exact .pure _

/-- The log of the question whether a dictionary has a key is that of the new truth value. -/
lemma containsKey_logged (h : inner.Logged w) (this : ScopeId) (entries : Ledger Key Entry)
    (why : ReasonId) (key : Justified) :
    Logged (containsKey inner this entries why key) fun c =>
      containsKey (w c) this entries why key := by
  apply Logged.bind (.ask _)
  intro shown
  apply Logged.bind (.ask _)
  intro dict
  apply Logged.bind (.ask _)
  intro slot
  split
  · apply Logged.bind (.lift (.conj _ _))
    intro answer
    exact hidden_logged h "Bool" _ why
  · apply Logged.bind (.lift (.conj _ _))
    intro answer
    exact hidden_logged h "Bool" _ why

/-- A dictionary that is only looked at has the log of the new truth value, if one is made. -/
lemma invokeDict_logged (h : inner.Logged w) (looks : method ∉ mutators) (this : ScopeId)
    (entries : Ledger Key Entry) (why : ReasonId) (args : List Justified) :
    Logged (invokeDict inner this entries method why args) fun c =>
      invokeDict (w c) this entries method why args := by
  unfold invokeDict
  split
  · exact withOne_logged fun key => getEntry_logged this entries why key
  · exact absurd (by decide) looks
  · exact withOne_logged fun key => containsKey_logged h this entries why key
  · exact .fail _

/-! ## Lists -/

/-- An item that the program itself appends is an event of the log, if the state is that of the
list. -/
lemma append_logged {s : Session} {i : ScopeId} {items : List Justified}
    (state : s.handle? (.object i) = some (.list items)) (why : ReasonId) (item : Justified) :
    (append i items why item s).Logged s fun _ => append i items why item s := by
  obtain ⟨text, runs⟩ : ∃ text, append i items why item s =
      ((Action.conj text [why, item.why]).mapError NativeFault.failure >>= fun appended =>
        Action.setHandle i (.list (items ++ [⟨item.value, appended⟩]))) s := ⟨_, rfl⟩
  rw [runs]
  simp only [Bind.bind, Action.mapError, Action.conj, Action.record, Graph.add]
  cases s.graph.firstLate? [why, item.why] with
  | some => exact Action.Logged.fail _ s
  | none =>
    let fills := Event.filled i items item.value s state
    refine ⟨[fills], .next (.refl s) (.ends (.elsewhere rfl)), fun c => .passed fun e mem => ?_⟩
    cases List.mem_singleton.1 mem
    exact trivial

/-- The program itself adds items to lists that it makes, and the chronicle tells it. -/
lemma appendTo_logged (list : Value) (why : ReasonId) (item : Justified) :
    Bare (appendTo list why item) := by
  intro s
  cases list with
  | object i =>
    cases state : s.handle? (.object i) with
    | some handle =>
      cases handle with
      | list items =>
        have runs : appendTo (.object i) why item s = append i items why item s := by
          simp only [appendTo, Bind.bind, Action.ask, state]
        dsimp only
        rw [runs]
        exact append_logged state why item
      | _ =>
        simp only [appendTo, Bind.bind, Action.ask, state]
        exact Action.Logged.fail _ s
    | none =>
      simp only [appendTo, Bind.bind, Action.ask, state]
      exact Action.Logged.fail _ s
  | _ => exact Action.Logged.fail _ s

/-- Getting an item needs no log. -/
lemma getItem_logged (this : ScopeId) (items : List Justified) (why : ReasonId)
    (index : Justified) :
    Bare (getItem this items why index) := by
  apply Logged.bind (expectNumber_logged _ _)
  intro (requested, _)
  dsimp only
  split
  · exact .fail _
  · apply Logged.bind (.ask _)
    intro list
    apply Logged.bind (.ask _)
    intro shown
    apply Logged.bind (.lift (.conj _ _))
    intro returned
    exact .pure _

/-- Describing the item at an index needs no log. -/
lemma soughtItem_logged (list : String) (items : List Justified) (requested : Option Int) :
    Bare (soughtItem list items requested) := by
  cases requested with
  | none =>
    apply Logged.bind (.text _)
    intro missing
    exact .pure _
  | some index =>
    unfold soughtItem
    dsimp only
    split
    · exact .pure _
    · apply Logged.bind (.text _)
      intro missing
      exact .pure _

/-- Getting an item that may be missing needs no log. -/
lemma tryGetItem_logged (this : ScopeId) (items : List Justified) (why : ReasonId)
    (index : Justified) :
    Bare (tryGetItem this items why index) := by
  apply Logged.bind (expectNumber_logged _ _)
  intro (requested, _)
  apply Logged.bind (.ask _)
  intro list
  apply Logged.bind (soughtItem_logged list items requested)
  intro item
  apply Logged.bind (.ask _)
  intro shown
  apply Logged.bind (.lift (.conj _ _))
  intro returned
  exact .pure _

/-- The log of a count is that of the new number. -/
lemma countItems_logged (h : inner.Logged w) (this : ScopeId) (items : List Justified)
    (why : ReasonId) :
    Logged (countItems inner this items why) fun c => countItems (w c) this items why := by
  apply Logged.bind (.ask _)
  intro list
  apply Logged.bind (.lift (.conj _ _))
  intro counted
  exact hidden_logged h "Num" _ why

/-- The log of the texts of items is that of the calls of `toString`, one after the other. -/
lemma itemTexts_logged (h : inner.Logged w) (why : ReasonId) (items : List Justified) :
    Logged (itemTexts inner why items) fun c => itemTexts (w c) why items := by
  induction items with
  | nil => exact .pure _
  | cons item rest ih =>
    apply Logged.bind (.lift (callMethod_logged h item "toString" [] why))
    intro converted
    apply Logged.bind (expectText_logged _ _)
    intro (content, _)
    apply Logged.bind ih
    intro contents
    exact .pure _

/-- The log of the text of a list is that of the texts of its items, and of the new text. -/
lemma listToString_logged (h : inner.Logged w) (items : List Justified) (why : ReasonId) :
    Logged (listToString inner items why) fun c => listToString (w c) items why := by
  apply Logged.bind (itemTexts_logged h why items)
  intro contents
  apply Logged.bind (.lift (.conj _ _))
  intro elements
  exact hidden_logged h "String" _ why

/-- A list that is only looked at has the log of what its method makes. -/
lemma invokeList_logged (h : inner.Logged w) (looks : method ∉ mutators) (this : ScopeId)
    (items : List Justified) (why : ReasonId) (args : List Justified) :
    Logged (invokeList inner this items method why args) fun c =>
      invokeList (w c) this items method why args := by
  unfold invokeList
  split
  · exact absurd (by decide) looks
  · exact absurd (by decide) looks
  · exact withOne_logged fun index => getItem_logged this items why index
  · exact withOne_logged fun index => tryGetItem_logged this items why index
  · exact absurd (by decide) looks
  · exact withNone_logged (countItems_logged h this items why)
  · exact withNone_logged (listToString_logged h items why)
  · exact .fail _

/-! ## Numbers -/

/-- The log of a comparison of numbers is that of the new truth value. -/
lemma compareNumbers_logged (h : inner.Logged w) (number : Option Int)
    (numberWhy why : ReasonId) (other : Justified) :
    Logged (compareNumbers inner number numberWhy why other) fun c =>
      compareNumbers (w c) number numberWhy why other := by
  apply Logged.bind (expectNumber_logged _ _)
  intro (theirs, theirWhy)
  apply Logged.bind (.lift (.conj _ _))
  intro result
  exact hidden_logged h "Bool" _ why

/-- The log of a sum of numbers is that of the new number. -/
lemma addNumbers_logged (h : inner.Logged w) (number : Option Int)
    (numberWhy why : ReasonId) (other : Justified) :
    Logged (addNumbers inner number numberWhy why other) fun c =>
      addNumbers (w c) number numberWhy why other := by
  apply Logged.bind (expectNumber_logged _ _)
  intro (theirs, theirWhy)
  apply Logged.bind (.ofExcept _)
  intro sum
  apply Logged.bind (.lift (.conj _ _))
  intro sumWhy
  exact hidden_logged h "Num" _ why

/-- A number has the log of what its method makes. -/
lemma invokeNumber_logged (h : inner.Logged w) (number : Option Int)
    (numberWhy : ReasonId) (method : String) (why : ReasonId) (args : List Justified) :
    Logged (invokeNumber inner number numberWhy method why args) fun c =>
      invokeNumber (w c) number numberWhy method why args := by
  unfold invokeNumber
  split
  · exact withNone_logged (hidden_logged h "String" _ why)
  · exact withNone_logged (hidden_logged h "Bool" _ why)
  · exact withOne_logged fun other => compareNumbers_logged h number numberWhy why other
  · exact withOne_logged fun other => addNumbers_logged h number numberWhy why other
  · exact .fail _

/-! ## Texts -/

/-- The log of parts that are appended has an event for each of them, besides the new texts. -/
lemma appendParts_logged (h : inner.Logged w) (list : Value) (why : ReasonId)
    (parts : List String) :
    Logged (appendParts inner list why parts) fun c => appendParts (w c) list why parts := by
  induction parts with
  | nil => exact .pure _
  | cons part rest ih =>
    apply Logged.bind (hidden_logged h "String" _ why)
    intro item
    apply Logged.bind (appendTo_logged list why item)
    intro _
    exact ih

/-- The log of a split is that of the new list and of its parts. -/
lemma splitText_logged (h : inner.Logged w) (content : String)
    (contentWhy why : ReasonId) (separator : Justified) :
    Logged (splitText inner content contentWhy why separator) fun c =>
      splitText (w c) content contentWhy why separator := by
  apply Logged.bind (expectText_logged _ _)
  intro (sep, sepWhy)
  apply Logged.bind (hidden_logged h "List" [] why)
  intro list
  apply Logged.bind (.lift (.conj _ _))
  intro split
  apply Logged.bind (appendParts_logged h list.value split _)
  intro _
  exact .pure _

/-- The log of joined texts is that of the new text. -/
lemma joinTexts_logged (h : inner.Logged w) (content : String)
    (contentWhy why : ReasonId) (other : Justified) :
    Logged (joinTexts inner content contentWhy why other) fun c =>
      joinTexts (w c) content contentWhy why other := by
  apply Logged.bind (expectText_logged _ _)
  intro (theirs, theirWhy)
  apply Logged.bind (.lift (.conj _ _))
  intro sum
  exact hidden_logged h "String" _ why

/-- The log of a comparison of texts is that of the new truth value. -/
lemma compareTexts_logged (h : inner.Logged w) (content : String)
    (contentWhy why : ReasonId) (other : Justified) :
    Logged (compareTexts inner content contentWhy why other) fun c =>
      compareTexts (w c) content contentWhy why other := by
  apply Logged.bind (expectText_logged _ _)
  intro (theirs, theirWhy)
  apply Logged.bind (.lift (.conj _ _))
  intro result
  exact .lift (newObject_logged h "Bool" _ why)

/-- The log of a text without its start is that of the new text. -/
lemma exceptStart_logged (h : inner.Logged w) (content : String) (why : ReasonId)
    (start : Justified) :
    Logged (exceptStart inner content why start) fun c => exceptStart (w c) content why start := by
  apply Logged.bind (expectText_logged _ _)
  intro (start, _)
  dsimp only
  split
  · apply Logged.bind (.text _)
    intro reason
    exact hidden_logged h "String" _ why
  · apply Logged.bind (.text _)
    intro reason
    exact hidden_logged h "String" _ why

/-- A text has the log of what its method makes. -/
lemma invokeText_logged (h : inner.Logged w) (this : ScopeId) (content : String)
    (contentWhy : ReasonId) (method : String) (why : ReasonId) (args : List Justified) :
    Logged (invokeText inner this content contentWhy method why args) fun c =>
      invokeText (w c) this content contentWhy method why args := by
  unfold invokeText
  split
  · exact withNone_logged (.pure _)
  · exact withOne_logged fun separator => splitText_logged h content contentWhy why separator
  · exact withOne_logged fun other => joinTexts_logged h content contentWhy why other
  · exact withOne_logged fun other => compareTexts_logged h content contentWhy why other
  · exact withOne_logged fun start => exceptStart_logged h content why start
  · exact .fail _

/-! ## Truth values -/

/-- The log of a comparison of truth values is that of the new one. -/
lemma compareTruths_logged (h : inner.Logged w) (truth : Bool) (truthWhy why : ReasonId)
    (other : Justified) :
    Logged (compareTruths inner truth truthWhy why other) fun c =>
      compareTruths (w c) truth truthWhy why other := by
  apply Logged.bind (expectTruth_logged _ _)
  intro (theirs, theirWhy)
  apply Logged.bind (.lift (.conj _ _))
  intro result
  exact hidden_logged h "Bool" _ why

/-- A truth value has the log of what its method makes. -/
lemma invokeTruth_logged (h : inner.Logged w) (truth : Bool) (truthWhy : ReasonId)
    (method : String) (why : ReasonId) (args : List Justified) :
    Logged (invokeTruth inner truth truthWhy method why args) fun c =>
      invokeTruth (w c) truth truthWhy method why args := by
  unfold invokeTruth
  split
  · exact withNone_logged (.lift (newObject_logged h "String" _ why))
  · exact withOne_logged fun other => compareTruths_logged h truth truthWhy why other
  · exact .fail _

/-! ## Handing over -/

/-- A built-in state that is only looked at has the log of what its method makes. -/
lemma invoke_logged (h : inner.Logged w) (looks : method ∉ mutators) (this : ScopeId)
    (handle : Handle) (why : ReasonId) (args : List Justified) :
    Logged (Native.invoke inner this handle method why args) fun c =>
      Native.invoke (w c) this handle method why args := by
  cases handle with
  | text content contentWhy => exact invokeText_logged h this content contentWhy method why args
  | list items => exact invokeList_logged h looks this items why args
  | dict entries => exact invokeDict_logged h looks this entries why args
  | truth truth truthWhy => exact invokeTruth_logged h truth truthWhy method why args
  | number number numberWhy => exact invokeNumber_logged h number numberWhy method why args

/-- Reading variables one after the other needs no log. -/
lemma lookupVariables_logged (loc : Location) (why : ReasonId) (names : List String) :
    Bare (lookupVariables loc why names) := by
  induction names with
  | nil => exact .pure _
  | cons name rest ih =>
    apply Logged.bind (lookupVariable_logged name loc why)
    intro info
    apply Logged.bind ih
    intro infos
    exact .pure _

/-- A method that changes no state has the log of what it makes when it is handed over. -/
lemma invokeNative_logged (h : inner.Logged w) (looks : method ∉ mutators) (params : List String)
    (loc : Location) (why : ReasonId) :
    Logged (invokeNative inner method params loc why) fun c =>
      invokeNative (w c) method params loc why := by
  apply Logged.bind (lookupVariable_logged selfName loc why)
  intro this
  apply Logged.bind (lookupVariables_logged loc why params)
  intro args
  apply Logged.bind (.ask _)
  intro shown
  apply Logged.bind (.full _ _ _ _ _)
  intro given
  apply Logged.bind (.ask _)
  intro object
  apply Logged.bind (.conj _ _)
  intro history
  apply Logged.bind (.ask _)
  intro handle
  split
  · apply Logged.bind (.toEval (invoke_logged h looks _ _ history args) _ method history)
    intro result
    apply Logged.bind (.hide _)
    intro _
    apply Logged.bind (.ask _)
    intro rendered
    apply Logged.bind (.full _ _ _ _ _)
    intro forwarded
    apply Logged.bind (.hide _)
    intro _
    exact .pure _
  · exact .fail _

end Because

