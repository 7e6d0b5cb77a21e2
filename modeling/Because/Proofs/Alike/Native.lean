import Because.Native.Invoke
import Because.Proofs.Alike.Call

/-!
# Built-in methods that are alike

A built-in method may call methods of the program, and is alike itself if these calls are. So is the
statement that hands a running method over to the state of its object.
-/

namespace Because

variable {tells : Failure → Failure → Prop} {calls : CallStack} {i j : Inner}

open Because.Action Native

/-! ## Arguments -/

/-- A text is required of an argument alike. -/
lemma expectText_alike (method : String) (info : Justified) :
    Alike (NativeFault.Tells tells) calls (expectText method info) (expectText method info) := by
  apply Alike.bind (.ask _)
  intro found
  cases found with
  | some found => exact .pure _
  | none => exact .refuse nofun

/-- A truth value is required of an argument alike. -/
lemma expectTruth_alike (method : String) (info : Justified) :
    Alike (NativeFault.Tells tells) calls (expectTruth method info) (expectTruth method info) := by
  apply Alike.bind (.ask _)
  intro found
  cases found with
  | some found => exact .pure _
  | none => exact .refuse nofun

/-- A number is required of an argument alike. -/
lemma expectNumber_alike (method : String) (info : Justified) :
    Alike (NativeFault.Tells tells) calls (expectNumber method info)
      (expectNumber method info) := by
  apply Alike.bind (.ask _)
  intro found
  cases found with
  | some found => exact .pure _
  | none => exact .refuse nofun

variable [Telling tells]

/-- A hidden object that a method makes. -/
lemma hidden_alike (h : i.Alike tells calls j) (className : String) (args : List Justified)
    (why : ReasonId) :
    Alike (NativeFault.Tells tells) calls (liftM (newHiddenObject i className args why))
      (liftM (newHiddenObject j className args why)) :=
  .lift (newHiddenObject_alike h className args why)

/-! ## Dictionaries -/

/-- The entry of a dictionary is got alike. -/
lemma getEntry_alike (this : ScopeId) (entries : Ledger Key Entry) (why : ReasonId)
    (key : Justified) :
    Alike (NativeFault.Tells tells) calls (getEntry this entries why key)
      (getEntry this entries why key) := by
  apply Alike.bind (.ask _)
  intro shown
  apply Alike.bind (.ask _)
  intro dict
  apply Alike.bind (.ask _)
  intro slot
  split
  · apply Alike.bind (.lift (.conj _ _))
    intro missing
    exact .pure _
  · apply Alike.bind (.lift (.conj _ _))
    intro retrieved
    exact .pure _

/-- An entry is put into a dictionary alike. -/
lemma put_alike (this : ScopeId) (entries : Ledger Key Entry) (why : ReasonId)
    (key value : Justified) :
    Alike (NativeFault.Tells tells) calls (put this entries why key value)
      (put this entries why key value) := by
  apply Alike.bind (.ask _)
  intro dict
  apply Alike.bind (.ask _)
  intro shownKey
  apply Alike.bind (.ask _)
  intro shownValue
  apply Alike.bind (.lift (.conj _ _))
  intro stored
  apply Alike.bind (.ask _)
  intro slot
  apply Alike.bind (.setHandle _ _)
  intro _
  apply Alike.bind .unknown
  intro unknown
  exact .pure _

/-- Whether a dictionary has a key is answered alike. -/
lemma containsKey_alike (h : i.Alike tells calls j) (this : ScopeId) (entries : Ledger Key Entry)
    (why : ReasonId) (key : Justified) :
    Alike (NativeFault.Tells tells) calls (containsKey i this entries why key)
      (containsKey j this entries why key) := by
  apply Alike.bind (.ask _)
  intro shown
  apply Alike.bind (.ask _)
  intro dict
  apply Alike.bind (.ask _)
  intro slot
  split
  · apply Alike.bind (.lift (.conj _ _))
    intro answer
    exact hidden_alike h "Bool" _ why
  · apply Alike.bind (.lift (.conj _ _))
    intro answer
    exact hidden_alike h "Bool" _ why

/-- A dictionary serves its methods alike. -/
lemma invokeDict_alike (h : i.Alike tells calls j) (this : ScopeId) (entries : Ledger Key Entry)
    (method : String) (why : ReasonId) (args : List Justified) :
    Alike (NativeFault.Tells tells) calls (invokeDict i this entries method why args)
      (invokeDict j this entries method why args) := by
  unfold invokeDict
  split
  · exact withOne_alike fun key => getEntry_alike this entries why key
  · exact withTwo_alike fun key value => put_alike this entries why key value
  · exact withOne_alike fun key => containsKey_alike h this entries why key
  · exact .refuse nofun

/-! ## Lists -/

/-- An item is appended to the state of a list alike. -/
lemma append_alike (scope : ScopeId) (items : List Justified) (why : ReasonId)
    (item : Justified) :
    Alike (NativeFault.Tells tells) calls (append scope items why item)
      (append scope items why item) := by
  apply Alike.bind (.ask _)
  intro shown
  apply Alike.bind (.ask _)
  intro contents
  apply Alike.bind (.lift (.conj _ _))
  intro appended
  exact .setHandle _ _

/-- An item is appended to a list alike, whatever the value is that should be one. -/
lemma appendTo_alike (list : Value) (why : ReasonId) (item : Justified) :
    Alike (NativeFault.Tells tells) calls (appendTo list why item) (appendTo list why item) := by
  apply Alike.bind (.ask _)
  intro handle
  split
  · exact append_alike _ _ why item
  · exact .refuse nofun

/-- The item at an index is got alike, and is missing alike. -/
lemma getItem_alike (this : ScopeId) (items : List Justified) (why : ReasonId)
    (index : Justified) :
    Alike (NativeFault.Tells tells) calls (getItem this items why index)
      (getItem this items why index) := by
  apply Alike.bind (expectNumber_alike _ _)
  intro (requested, _)
  dsimp only
  split
  · exact .refuse nofun
  · apply Alike.bind (.ask _)
    intro list
    apply Alike.bind (.ask _)
    intro shown
    apply Alike.bind (.lift (.conj _ _))
    intro returned
    exact .pure _

omit [Telling tells] in
/-- The item that is sought at an index is described alike. -/
lemma soughtItem_alike (list : String) (items : List Justified) (requested : Option Int) :
    Alike (NativeFault.Tells tells) calls (soughtItem list items requested)
      (soughtItem list items requested) := by
  cases requested with
  | none =>
    apply Alike.bind (.text _)
    intro missing
    exact .pure _
  | some index =>
    unfold soughtItem
    dsimp only
    split
    · exact .pure _
    · apply Alike.bind (.text _)
      intro missing
      exact .pure _

/-- An item that may be missing is got alike. -/
lemma tryGetItem_alike (this : ScopeId) (items : List Justified) (why : ReasonId)
    (index : Justified) :
    Alike (NativeFault.Tells tells) calls (tryGetItem this items why index)
      (tryGetItem this items why index) := by
  apply Alike.bind (expectNumber_alike _ _)
  intro (requested, _)
  apply Alike.bind (.ask _)
  intro list
  apply Alike.bind (soughtItem_alike list items requested)
  intro item
  apply Alike.bind (.ask _)
  intro shown
  apply Alike.bind (.lift (.conj _ _))
  intro returned
  exact .pure _

omit [Telling tells] in
/-- An item is removed alike. -/
lemma removeItem_alike (this : ScopeId) (items : List Justified) (index : Justified) :
    Alike (NativeFault.Tells tells) calls (removeItem this items index)
      (removeItem this items index) := by
  apply Alike.bind (expectNumber_alike _ _)
  intro (requested, _)
  dsimp only
  split
  · exact .refuse nofun
  · apply Alike.bind (.setHandle _ _)
    intro _
    apply Alike.bind .unknown
    intro unknown
    exact .pure _

/-- Items are counted alike. -/
lemma countItems_alike (h : i.Alike tells calls j) (this : ScopeId) (items : List Justified)
    (why : ReasonId) :
    Alike (NativeFault.Tells tells) calls (countItems i this items why)
      (countItems j this items why) := by
  apply Alike.bind (.ask _)
  intro list
  apply Alike.bind (.lift (.conj _ _))
  intro counted
  exact hidden_alike h "Num" _ why

/-- The texts of items are made alike, one after the other. -/
lemma itemTexts_alike (h : i.Alike tells calls j) (why : ReasonId) (items : List Justified) :
    Alike (NativeFault.Tells tells) calls (itemTexts i why items) (itemTexts j why items) := by
  induction items with
  | nil => exact .pure _
  | cons item rest ih =>
    apply Alike.bind (.lift (callMethod_alike h item "toString" [] why))
    intro converted
    apply Alike.bind (expectText_alike _ _)
    intro (content, _)
    apply Alike.bind ih
    intro contents
    exact .pure _

/-- The text of a list is made alike. -/
lemma listToString_alike (h : i.Alike tells calls j) (items : List Justified) (why : ReasonId) :
    Alike (NativeFault.Tells tells) calls (listToString i items why)
      (listToString j items why) := by
  apply Alike.bind (itemTexts_alike h why items)
  intro contents
  apply Alike.bind (.lift (.conj _ _))
  intro elements
  exact hidden_alike h "String" _ why

/-- A list serves its methods alike. -/
lemma invokeList_alike (h : i.Alike tells calls j) (this : ScopeId) (items : List Justified)
    (method : String) (why : ReasonId) (args : List Justified) :
    Alike (NativeFault.Tells tells) calls (invokeList i this items method why args)
      (invokeList j this items method why args) := by
  unfold invokeList
  split
  · refine withOne_alike fun item => ?_
    apply Alike.bind (append_alike this items why item)
    intro _
    exact .pure _
  · refine withNone_alike ?_
    apply Alike.bind (.setHandle _ _)
    intro _
    apply Alike.bind .unknown
    intro unknown
    exact .pure _
  · exact withOne_alike fun index => getItem_alike this items why index
  · exact withOne_alike fun index => tryGetItem_alike this items why index
  · exact withOne_alike fun index => removeItem_alike this items index
  · exact withNone_alike (countItems_alike h this items why)
  · exact withNone_alike (listToString_alike h items why)
  · exact .refuse nofun

/-! ## Numbers -/

/-- Numbers are compared alike. -/
lemma compareNumbers_alike (h : i.Alike tells calls j) (number : Option Int)
    (numberWhy why : ReasonId) (other : Justified) :
    Alike (NativeFault.Tells tells) calls (compareNumbers i number numberWhy why other)
      (compareNumbers j number numberWhy why other) := by
  apply Alike.bind (expectNumber_alike _ _)
  intro (theirs, theirWhy)
  apply Alike.bind (.lift (.conj _ _))
  intro result
  exact hidden_alike h "Bool" _ why

omit [Telling tells] in
/-- Numbers are added alike, and overflow alike. -/
lemma sum_alike (first second : Option Int) :
    Alike (NativeFault.Tells tells) calls (Action.ofExcept (sum? first second))
      (Action.ofExcept (sum? first second)) := by
  cases first with
  | none => exact .pure none
  | some a =>
    cases second with
    | none => exact .pure none
    | some b =>
      unfold sum?
      dsimp only
      split
      · exact .pure _
      · exact .refuse nofun

/-- The sum of two numbers becomes an object alike. -/
lemma addNumbers_alike (h : i.Alike tells calls j) (number : Option Int)
    (numberWhy why : ReasonId) (other : Justified) :
    Alike (NativeFault.Tells tells) calls (addNumbers i number numberWhy why other)
      (addNumbers j number numberWhy why other) := by
  apply Alike.bind (expectNumber_alike _ _)
  intro (theirs, theirWhy)
  apply Alike.bind (sum_alike number theirs)
  intro sum
  apply Alike.bind (.lift (.conj _ _))
  intro sumWhy
  exact hidden_alike h "Num" _ why

/-- A number serves its methods alike. -/
lemma invokeNumber_alike (h : i.Alike tells calls j) (number : Option Int)
    (numberWhy : ReasonId) (method : String) (why : ReasonId) (args : List Justified) :
    Alike (NativeFault.Tells tells) calls (invokeNumber i number numberWhy method why args)
      (invokeNumber j number numberWhy method why args) := by
  unfold invokeNumber
  split
  · exact withNone_alike (hidden_alike h "String" _ why)
  · exact withNone_alike (hidden_alike h "Bool" _ why)
  · exact withOne_alike fun other => compareNumbers_alike h number numberWhy why other
  · exact withOne_alike fun other => addNumbers_alike h number numberWhy why other
  · exact .refuse nofun

/-! ## Texts -/

/-- Parts of a text are appended to a list alike. -/
lemma appendParts_alike (h : i.Alike tells calls j) (list : Value) (why : ReasonId)
    (parts : List String) :
    Alike (NativeFault.Tells tells) calls (appendParts i list why parts)
      (appendParts j list why parts) := by
  induction parts with
  | nil => exact .pure _
  | cons part rest ih =>
    apply Alike.bind (hidden_alike h "String" _ why)
    intro item
    apply Alike.bind (appendTo_alike list why item)
    intro _
    exact ih

/-- A text is split alike. -/
lemma splitText_alike (h : i.Alike tells calls j) (content : String)
    (contentWhy why : ReasonId) (separator : Justified) :
    Alike (NativeFault.Tells tells) calls (splitText i content contentWhy why separator)
      (splitText j content contentWhy why separator) := by
  apply Alike.bind (expectText_alike _ _)
  intro (sep, sepWhy)
  apply Alike.bind (hidden_alike h "List" [] why)
  intro list
  apply Alike.bind (.lift (.conj _ _))
  intro split
  apply Alike.bind (appendParts_alike h list.value split _)
  intro _
  exact .pure _

/-- Texts are joined alike. -/
lemma joinTexts_alike (h : i.Alike tells calls j) (content : String)
    (contentWhy why : ReasonId) (other : Justified) :
    Alike (NativeFault.Tells tells) calls (joinTexts i content contentWhy why other)
      (joinTexts j content contentWhy why other) := by
  apply Alike.bind (expectText_alike _ _)
  intro (theirs, theirWhy)
  apply Alike.bind (.lift (.conj _ _))
  intro sum
  exact hidden_alike h "String" _ why

/-- Texts are compared alike. -/
lemma compareTexts_alike (h : i.Alike tells calls j) (content : String)
    (contentWhy why : ReasonId) (other : Justified) :
    Alike (NativeFault.Tells tells) calls (compareTexts i content contentWhy why other)
      (compareTexts j content contentWhy why other) := by
  apply Alike.bind (expectText_alike _ _)
  intro (theirs, theirWhy)
  apply Alike.bind (.lift (.conj _ _))
  intro result
  exact .lift (newObject_alike h "Bool" _ why)

/-- The start of a text is taken away alike. -/
lemma exceptStart_alike (h : i.Alike tells calls j) (content : String) (why : ReasonId)
    (start : Justified) :
    Alike (NativeFault.Tells tells) calls (exceptStart i content why start)
      (exceptStart j content why start) := by
  apply Alike.bind (expectText_alike _ _)
  intro (start, _)
  dsimp only
  split
  · apply Alike.bind (.text _)
    intro reason
    exact hidden_alike h "String" _ why
  · apply Alike.bind (.text _)
    intro reason
    exact hidden_alike h "String" _ why

/-- A text serves its methods alike. -/
lemma invokeText_alike (h : i.Alike tells calls j) (this : ScopeId) (content : String)
    (contentWhy : ReasonId) (method : String) (why : ReasonId) (args : List Justified) :
    Alike (NativeFault.Tells tells) calls (invokeText i this content contentWhy method why args)
      (invokeText j this content contentWhy method why args) := by
  unfold invokeText
  split
  · exact withNone_alike (.pure _)
  · exact withOne_alike fun separator => splitText_alike h content contentWhy why separator
  · exact withOne_alike fun other => joinTexts_alike h content contentWhy why other
  · exact withOne_alike fun other => compareTexts_alike h content contentWhy why other
  · exact withOne_alike fun start => exceptStart_alike h content why start
  · exact .refuse nofun

/-! ## Truth values -/

/-- Truth values are compared alike. -/
lemma compareTruths_alike (h : i.Alike tells calls j) (truth : Bool) (truthWhy why : ReasonId)
    (other : Justified) :
    Alike (NativeFault.Tells tells) calls (compareTruths i truth truthWhy why other)
      (compareTruths j truth truthWhy why other) := by
  apply Alike.bind (expectTruth_alike _ _)
  intro (theirs, theirWhy)
  apply Alike.bind (.lift (.conj _ _))
  intro result
  exact hidden_alike h "Bool" _ why

/-- A truth value serves its methods alike. -/
lemma invokeTruth_alike (h : i.Alike tells calls j) (truth : Bool) (truthWhy : ReasonId)
    (method : String) (why : ReasonId) (args : List Justified) :
    Alike (NativeFault.Tells tells) calls (invokeTruth i truth truthWhy method why args)
      (invokeTruth j truth truthWhy method why args) := by
  unfold invokeTruth
  split
  · exact withNone_alike (.lift (newObject_alike h "String" _ why))
  · exact withOne_alike fun other => compareTruths_alike h truth truthWhy why other
  · exact .refuse nofun

/-! ## Handing over -/

/-- A built-in state serves its methods alike, whichever it is. -/
lemma invoke_alike (h : i.Alike tells calls j) (this : ScopeId) (handle : Handle)
    (method : String) (why : ReasonId) (args : List Justified) :
    Alike (NativeFault.Tells tells) calls (Native.invoke i this handle method why args)
      (Native.invoke j this handle method why args) := by
  cases handle with
  | text content contentWhy => exact invokeText_alike h this content contentWhy method why args
  | list items => exact invokeList_alike h this items method why args
  | dict entries => exact invokeDict_alike h this entries method why args
  | truth truth truthWhy => exact invokeTruth_alike h truth truthWhy method why args
  | number number numberWhy => exact invokeNumber_alike h number numberWhy method why args

/-- Variables are read alike, one after the other. -/
lemma lookupVariables_alike (loc : Location) (why : ReasonId) (names : List String) :
    Alike tells calls (lookupVariables loc why names) (lookupVariables loc why names) := by
  induction names with
  | nil => exact .pure _
  | cons name rest ih =>
    apply Alike.bind (lookupVariable_alike name loc why)
    intro info
    apply Alike.bind ih
    intro infos
    exact .pure _

/-- A method is handed over alike to the built-in state of `self`. -/
lemma invokeNative_alike (h : i.Alike tells calls j) (method : String) (params : List String)
    (loc : Location) (why : ReasonId) :
    Alike tells calls (invokeNative i method params loc why)
      (invokeNative j method params loc why) := by
  apply Alike.bind (lookupVariable_alike selfName loc why)
  intro this
  apply Alike.bind (lookupVariables_alike loc why params)
  intro args
  apply Alike.bind (.ask _)
  intro shown
  apply Alike.bind (.full _ _ _ _ _)
  intro given
  apply Alike.bind (.ask _)
  intro object
  apply Alike.bind (.conj _ _)
  intro history
  apply Alike.bind (.ask _)
  intro handle
  split
  · apply Alike.bind (.toEval (invoke_alike h _ _ method history args) _ method history)
    intro result
    apply Alike.bind (.hide _)
    intro _
    apply Alike.bind (.ask _)
    intro rendered
    apply Alike.bind (.full _ _ _ _ _)
    intro forwarded
    apply Alike.bind (.hide _)
    intro _
    exact .pure _
  · exact .because nofun

end Because
