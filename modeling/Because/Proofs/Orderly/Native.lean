import Because.Native.Invoke
import Because.Proofs.Orderly.Object

/-!
# Built-in methods in orderly sessions

A built-in method hands values on that it finds in the state of its object or among its arguments,
and makes new objects. It gives an object a new state only of the kind that the object has.
-/

namespace Because

open Session

namespace Session

variable {s s' : Session} {i : ScopeId} {builtin : Builtin}

/-- The scope is an object with the state of a built-in class. -/
def HasState (s : Session) (i : ScopeId) (builtin : Builtin) : Prop :=
  (s.kind? i).bind Prod.snd = some builtin

/-- An object with a state has a state of this kind. -/
lemma hasState_of_handle {handle : Handle} (found : s.handle? (.object i) = some handle) :
    s.HasState i handle.builtin := by
  obtain ⟨tag, tagged, holds⟩ := Option.bind_eq_some_iff.1 found
  have tagged : (s.scopes.scopeAt i).tag = some tag := tagged
  rw [HasState, kind?, tagged, Option.map_some, Option.bind_some, holds, Option.map_some]

/-- An object keeps the kind of its state. -/
lemma HasState.grows {o : Places} (h : s.HasState i builtin) (grows : s.Grows o s') :
    s'.HasState i builtin := by
  obtain ⟨kind, known, -⟩ := Option.bind_eq_some_iff.1 h
  rw [HasState, grows.kind i (made_of_kind known)]
  exact h

end Session

namespace Regime

variable {R : Regime} {inner : Inner} {s : Session} {v : List ScopeId} {why : ReasonId}

/-! ## Arguments -/

section

variable (method : String) (info : Justified)

/-- Requiring a text of an argument changes nothing. -/
lemma expectText_leads (good : R.Good s) :
    R.Leads v NativeFault.Calm (fun _ now => s = now) s (Native.expectText method info s) := by
  refine .ask ?_
  cases s.textOf? info.value with
  | some found => exact .pure good rfl
  | none => exact .refuse good trivial

/-- Requiring a truth value of an argument changes nothing. -/
lemma expectTruth_leads (good : R.Good s) :
    R.Leads v NativeFault.Calm (fun _ now => s = now) s (Native.expectTruth method info s) := by
  refine .ask ?_
  cases s.truthOf? info.value with
  | some found => exact .pure good rfl
  | none => exact .refuse good trivial

/-- Requiring a number of an argument changes nothing. -/
lemma expectNumber_leads (good : R.Good s) :
    R.Leads v NativeFault.Calm (fun _ now => s = now) s (Native.expectNumber method info s) := by
  refine .ask ?_
  cases s.numberOf? info.value with
  | some found => exact .pure good rfl
  | none => exact .refuse good trivial

end

/-! ## Objects that methods make -/

/-- An object that a method makes fits. -/
lemma made_leads (h : inner.Regular R) (good : R.Good s) (className : String) {info : Justified}
    (fits : info.value.Fits s) :
    R.Leads [] NativeFault.Calm Fitting s
      ((liftM (newObject inner className [info] why) : Native Justified) s) :=
  .lift (newObject_leads h good className (.one fits))

/-- An object that a method makes and whose reason it hides fits. -/
lemma hidden_leads (h : inner.Regular R) (good : R.Good s) (className : String) {info : Justified}
    (fits : info.value.Fits s) :
    R.Leads [] NativeFault.Calm Fitting s
      ((liftM (newHiddenObject inner className [info] why) : Native Justified) s) :=
  .lift (newHiddenObject_leads h good className (.one fits))

/-! ## Dictionaries -/

section Dict

variable {this : ScopeId} {entries : Ledger Key Entry}

/-- The entry that is got from a dictionary fits. -/
lemma getEntry_leads (good : R.Good s) (fits : Handle.Fits s (.dict entries)) (key : Justified) :
    R.Leads v NativeFault.Calm Fitting s (Native.getEntry this entries why key s) := by
  refine .ask (.ask (.ask ?_))
  cases e : entries.get? (s.key key.value) with
  | none => exact .bind good (.lift (.conj good ..)) fun missing s1 good _ _ => .pure good trivial
  | some entry =>
    have stored := (fits _ (Ledger.mem_of_get? e)).2
    refine .bind good (.lift (.conj good ..)) fun retrieved s1 good later _ => ?_
    exact .pure good (stored.grows later.grows)

/-- An entry may be put into a dictionary if its key and its value fit. -/
lemma put_leads (good : R.Good s) (state : s.HasState this .dict)
    (fits : Handle.Fits s (.dict entries)) {key value : Justified} (fits_key : key.value.Fits s)
    (fits_value : value.value.Fits s) :
    R.Leads v NativeFault.Calm Fitting s (Native.put this entries why key value s) := by
  refine .ask (.ask (.ask ?_))
  refine .bind good (.lift (.conj good ..)) fun stored s1 good later _ => .ask ?_
  refine .bind good (.setHandle good (state.grows later.grows) fun entry mem => ?_)
    fun _ s2 good _ _ => ?_
  · obtain rfl | old := Ledger.mem_put mem
    · exact ⟨fits_key.grows later.grows, fits_value.grows later.grows⟩
    · exact ⟨(fits entry old).1.grows later.grows, (fits entry old).2.grows later.grows⟩
  · exact .bind good (.unknown good) fun unknown s3 good _ _ => .pure good trivial

/-- Whether a dictionary has a key is a fitting value. -/
lemma containsKey_leads (h : inner.Regular R) (good : R.Good s) (key : Justified) :
    R.Leads [] NativeFault.Calm Fitting s
      (Native.containsKey inner this entries why key s) := by
  refine .ask (.ask (.ask ?_))
  cases entries.get? (s.key key.value) with
  | none | some =>
    refine .bind good (.lift (.conj good ..)) fun answer s1 good _ _ => ?_
    exact hidden_leads h good "Bool" trivial

/-- The methods of dictionaries run as they should. -/
lemma invokeDict_leads (h : inner.Regular R) (good : R.Good s) (state : s.HasState this .dict)
    (fits : Handle.Fits s (.dict entries)) (method : String) {args : List Justified}
    (fit : Justified.AllFit s args) :
    R.Leads [] NativeFault.Calm Fitting s
      (Native.invokeDict inner this entries method why args s) := by
  unfold Native.invokeDict
  split
  · exact withOne_leads good fit fun key _ => getEntry_leads good fits key
  · exact withTwo_leads good fit fun key value hk hv => put_leads good state fits hk hv
  · exact withOne_leads good fit fun key _ => containsKey_leads h good key
  · exact .refuse good trivial

end Dict

/-! ## Lists -/

section List

variable {this : ScopeId} {items : List Justified}

/-- A fitting item may be appended to a list. -/
lemma append_leads (good : R.Good s) (state : s.HasState this .list)
    (fit : Justified.AllFit s items) {item : Justified} (fits : item.value.Fits s) :
    R.Leads v NativeFault.Calm Any s (Native.append this items why item s) := by
  refine .ask (.ask ?_)
  refine .bind good (.lift (.conj good ..)) fun appended s1 good later _ => ?_
  refine .setHandle good (state.grows later.grows) fun info mem => ?_
  obtain old | new := List.mem_append.1 mem
  · exact (fit info old).grows later.grows
  · rw [List.mem_singleton.1 new]
    exact fits.grows later.grows

/-- A fitting item may be appended to what may be a list. -/
lemma appendTo_leads (good : R.Good s) {list : Value} {item : Justified}
    (fits : item.value.Fits s) :
    R.Leads v NativeFault.Calm Any s (Native.appendTo list why item s) := by
  refine .ask ?_
  cases list with
  | object scope =>
    cases found : s.handle? (.object scope) with
    | none => exact .refuse good trivial
    | some handle =>
      cases handle with
      | list items =>
        exact append_leads good (hasState_of_handle found) (good.orderly.handle found) fits
      | _ => exact .refuse good trivial
  | _ => exact .refuse good trivial

/-- Where there is no item there is None, which fits. -/
lemma item_fits (fit : Justified.AllFit s items) (place : Nat) :
    (items[place]?.getD default).value.Fits s := by
  cases e : items[place]? with
  | none => trivial
  | some item => exact fit item (List.mem_of_getElem? e)

/-- The item that is got from a list fits. -/
lemma getItem_leads (good : R.Good s) (fit : Justified.AllFit s items) (index : Justified) :
    R.Leads v NativeFault.Calm Fitting s (Native.getItem this items why index s) := by
  refine .bind good (expectNumber_leads _ index good) ?_
  rintro ⟨requested, _⟩ _ - - rfl
  dsimp only
  cases requested.bind (Native.position? items.length) with
  | none => exact .refuse good trivial
  | some place =>
    have fits := item_fits fit place
    refine .ask (.ask (.bind good (.lift (.conj good ..)) fun returned s1 good later _ => ?_))
    exact .pure good (fits.grows later.grows)

/-- The item that a list is asked for fits, if there is one. -/
lemma soughtItem_leads (good : R.Good s) (fit : Justified.AllFit s items) (list : String)
    (requested : Option Int) :
    R.Leads v NativeFault.Calm Fitting s (Native.soughtItem list items requested s) := by
  unfold Native.soughtItem
  cases requested with
  | none => exact .bind good (.text good _) fun missing s1 good _ _ => .pure good trivial
  | some index =>
    dsimp only
    cases Native.position? items.length index with
    | none => exact .bind good (.text good _) fun missing s1 good _ _ => .pure good trivial
    | some place => exact .pure good (item_fits fit place)

/-- The item that may be missing fits. -/
lemma tryGetItem_leads (good : R.Good s) (fit : Justified.AllFit s items) (index : Justified) :
    R.Leads v NativeFault.Calm Fitting s (Native.tryGetItem this items why index s) := by
  refine .bind good (expectNumber_leads _ index good) ?_
  rintro ⟨requested, _⟩ _ - - rfl
  refine .ask (.bind good (soughtItem_leads good fit _ requested) fun item s1 good _ fits => ?_)
  refine .ask (.bind good (.lift (.conj good ..)) fun returned s2 good later _ => ?_)
  exact .pure good (fits.grows later.grows)

/-- The item that is removed from a list fits. -/
lemma removeItem_leads (good : R.Good s) (state : s.HasState this .list)
    (fit : Justified.AllFit s items) (index : Justified) :
    R.Leads v NativeFault.Calm Fitting s (Native.removeItem this items index s) := by
  refine .bind good (expectNumber_leads _ index good) ?_
  rintro ⟨requested, _⟩ _ - - rfl
  dsimp only
  cases requested.bind (Native.position? items.length) with
  | none => exact .refuse good trivial
  | some place =>
    have fits : Handle.Fits s (.list (items.eraseIdx place)) :=
      fun item mem => fit item (List.mem_of_mem_eraseIdx mem)
    refine .bind good (.setHandle good state fits) fun _ s1 good _ _ => ?_
    exact .bind good (.unknown good) fun unknown s2 good _ _ => .pure good trivial

/-- The number of items is a fitting value. -/
lemma countItems_leads (h : inner.Regular R) (good : R.Good s) :
    R.Leads [] NativeFault.Calm Fitting s (Native.countItems inner this items why s) := by
  -- Without any items there is nothing to rest on.
  have founded : Kind.Founded (reasons items) (.conj
      s!"these {items.length} items were added to {s.scopes.description this}") := by
    intro none
    obtain rfl := List.map_eq_nil_iff.1 none
    exact ⟨_, rfl⟩
  have records := Leads.record (v := []) good _ _ Option.none founded
  refine .ask (.bind good (.lift records) fun counted s1 good _ _ => ?_)
  exact hidden_leads h good "Num" trivial

/-- The texts of items are made as they should be. -/
lemma itemTexts_leads (h : inner.Regular R) (good : R.Good s) (fit : Justified.AllFit s items) :
    R.Leads [] NativeFault.Calm Any s (Native.itemTexts inner why items s) := by
  induction items generalizing s with
  | nil => exact .pure good trivial
  | cons item rest ih =>
    obtain ⟨first, others⟩ := List.forall_mem_cons.1 fit
    refine .bind good (.lift (callMethod_leads h good first "toString" .nil))
      fun converted s1 good later _ => ?_
    refine .bind good (expectText_leads _ converted good) ?_
    rintro ⟨content, _⟩ _ - - rfl
    refine .bind good (ih good (Justified.AllFit.grows others later.grows)) ?_
    exact fun contents s2 good _ _ => .pure good trivial

/-- The text of a list is a fitting value. -/
lemma listToString_leads (h : inner.Regular R) (good : R.Good s)
    (fit : Justified.AllFit s items) :
    R.Leads [] NativeFault.Calm Fitting s (Native.listToString inner items why s) := by
  refine .bind good (itemTexts_leads h good fit) fun contents s1 good _ _ => ?_
  refine .bind good (.lift (.conj good ..)) fun elements s2 good _ _ => ?_
  exact hidden_leads h good "String" trivial

/-- The methods of lists run as they should. -/
lemma invokeList_leads (h : inner.Regular R) (good : R.Good s) (state : s.HasState this .list)
    (fit : Justified.AllFit s items) (method : String) {args : List Justified}
    (fitArgs : Justified.AllFit s args) :
    R.Leads [] NativeFault.Calm Fitting s
      (Native.invokeList inner this items method why args s) := by
  unfold Native.invokeList
  split
  · refine withOne_leads good fitArgs fun item fits => ?_
    exact .bind good (append_leads good state fit fits) fun _ s1 good _ _ => .pure good trivial
  · refine withNone_leads good (.bind good (.setHandle good state .nil) fun _ s1 good _ _ => ?_)
    exact .bind good (.unknown good) fun unknown s2 good _ _ => .pure good trivial
  · exact withOne_leads good fitArgs fun index _ => getItem_leads good fit index
  · exact withOne_leads good fitArgs fun index _ => tryGetItem_leads good fit index
  · exact withOne_leads good fitArgs fun index _ => removeItem_leads good state fit index
  · exact withNone_leads good (countItems_leads h good)
  · exact withNone_leads good (listToString_leads h good fit)
  · exact .refuse good trivial

end List

/-! ## Numbers -/

section Number

variable {number : Option Int} {numberWhy : ReasonId}

/-- The state of a number mentions no values. -/
lemma payload_fits (number : Option Int) : (Native.payload number).Fits s := by
  cases number <;> trivial

/-- The comparison of numbers gives a fitting value. -/
lemma compareNumbers_leads (h : inner.Regular R) (good : R.Good s) (other : Justified) :
    R.Leads [] NativeFault.Calm Fitting s
      (Native.compareNumbers inner number numberWhy why other s) := by
  refine .bind good (expectNumber_leads _ other good) ?_
  rintro ⟨theirs, _⟩ _ - - rfl
  refine .bind good (.lift (.conj good ..)) fun result s1 good _ _ => ?_
  exact hidden_leads h good "Bool" trivial

/-- Adding two numbers changes nothing. -/
lemma sum_leads (good : R.Good s) (first second : Option Int) :
    R.Leads v NativeFault.Calm Any s
      (Action.ofExcept (Native.sum? first second) s) := by
  unfold Native.sum?
  cases first with
  | none => exact .pure good trivial
  | some a =>
    cases second with
    | none => exact .pure good trivial
    | some b =>
      dsimp only
      split
      · exact .pure good trivial
      · have own : (NativeFault.overflow "plus").IsOwn := trivial
        exact .refuse good own

/-- The sum of numbers is a fitting value. -/
lemma addNumbers_leads (h : inner.Regular R) (good : R.Good s) (other : Justified) :
    R.Leads [] NativeFault.Calm Fitting s
      (Native.addNumbers inner number numberWhy why other s) := by
  refine .bind good (expectNumber_leads _ other good) ?_
  rintro ⟨theirs, _⟩ _ - - rfl
  refine .bind good (sum_leads good number theirs) fun sum s1 good _ _ => ?_
  refine .bind good (.lift (.conj good ..)) fun sumWhy s2 good _ _ => ?_
  exact hidden_leads h good "Num" (payload_fits sum)

/-- The methods of numbers run as they should. -/
lemma invokeNumber_leads (h : inner.Regular R) (good : R.Good s) (method : String)
    {args : List Justified} (fit : Justified.AllFit s args) :
    R.Leads [] NativeFault.Calm Fitting s
      (Native.invokeNumber inner number numberWhy method why args s) := by
  unfold Native.invokeNumber
  split
  · exact withNone_leads good (hidden_leads h good "String" trivial)
  · exact withNone_leads good (hidden_leads h good "Bool" trivial)
  · exact withOne_leads good fit fun other _ => compareNumbers_leads h good other
  · exact withOne_leads good fit fun other _ => addNumbers_leads h good other
  · exact .refuse good trivial

end Number

/-! ## Texts -/

section Text

variable {content : String} {contentWhy : ReasonId}

/-- Appending the parts of a text runs as it should. -/
lemma appendParts_leads (h : inner.Regular R) (good : R.Good s) (list : Value)
    (parts : List String) :
    R.Leads [] NativeFault.Calm Any s (Native.appendParts inner list why parts s) := by
  induction parts generalizing s with
  | nil => exact .pure good trivial
  | cons part rest ih =>
    refine .bind good (hidden_leads h good "String" trivial) fun item s1 good _ fits => ?_
    exact .bind good (appendTo_leads good fits) fun _ s2 good _ _ => ih good

/-- The list of the parts of a text is a fitting value. -/
lemma splitText_leads (h : inner.Regular R) (good : R.Good s) (separator : Justified) :
    R.Leads [] NativeFault.Calm Fitting s
      (Native.splitText inner content contentWhy why separator s) := by
  refine .bind good (expectText_leads _ separator good) ?_
  rintro ⟨sep, _⟩ _ - - rfl
  refine .bind good (.lift (newHiddenObject_leads h good "List" .nil))
    fun list s1 good _ fits => ?_
  refine .bind good (.lift (.conj good ..)) fun split s2 good later _ => ?_
  have fits := fits.grows later.grows
  refine .bind good (appendParts_leads h good _ _) fun _ s3 good later _ => ?_
  exact .pure good (fits.grows later.grows)

/-- The joined text is a fitting value. -/
lemma joinTexts_leads (h : inner.Regular R) (good : R.Good s) (other : Justified) :
    R.Leads [] NativeFault.Calm Fitting s
      (Native.joinTexts inner content contentWhy why other s) := by
  refine .bind good (expectText_leads _ other good) ?_
  rintro ⟨theirs, _⟩ _ - - rfl
  refine .bind good (.lift (.conj good ..)) fun sum s1 good _ _ => ?_
  exact hidden_leads h good "String" trivial

/-- The comparison of texts gives a fitting value. -/
lemma compareTexts_leads (h : inner.Regular R) (good : R.Good s) (other : Justified) :
    R.Leads [] NativeFault.Calm Fitting s
      (Native.compareTexts inner content contentWhy why other s) := by
  refine .bind good (expectText_leads _ other good) ?_
  rintro ⟨theirs, _⟩ _ - - rfl
  refine .bind good (.lift (.conj good ..)) fun result s1 good _ _ => ?_
  exact made_leads h good "Bool" trivial

/-- What is left of a text is a fitting value. -/
lemma exceptStart_leads (h : inner.Regular R) (good : R.Good s) (start : Justified) :
    R.Leads [] NativeFault.Calm Fitting s (Native.exceptStart inner content why start s) := by
  refine .bind good (expectText_leads _ start good) ?_
  rintro ⟨start, _⟩ _ - - rfl
  dsimp only
  split
  all_goals
    refine .bind good (.text good _) fun reason s1 good _ _ => ?_
    exact hidden_leads h good "String" trivial

/-- The methods of texts run as they should. -/
lemma invokeText_leads (h : inner.Regular R) (good : R.Good s) {this : ScopeId}
    (known : (Value.object this).Fits s) (method : String) {args : List Justified}
    (fit : Justified.AllFit s args) :
    R.Leads [] NativeFault.Calm Fitting s
      (Native.invokeText inner this content contentWhy method why args s) := by
  unfold Native.invokeText
  split
  · exact withNone_leads good (.pure good known)
  · exact withOne_leads good fit fun separator _ => splitText_leads h good separator
  · exact withOne_leads good fit fun other _ => joinTexts_leads h good other
  · exact withOne_leads good fit fun other _ => compareTexts_leads h good other
  · exact withOne_leads good fit fun start _ => exceptStart_leads h good start
  · exact .refuse good trivial

end Text

/-! ## Truth values -/

section Truth

variable {truth : Bool} {truthWhy : ReasonId}

/-- The comparison of truth values gives a fitting value. -/
lemma compareTruths_leads (h : inner.Regular R) (good : R.Good s) (other : Justified) :
    R.Leads [] NativeFault.Calm Fitting s
      (Native.compareTruths inner truth truthWhy why other s) := by
  refine .bind good (expectTruth_leads _ other good) ?_
  rintro ⟨theirs, _⟩ _ - - rfl
  refine .bind good (.lift (.conj good ..)) fun result s1 good _ _ => ?_
  exact hidden_leads h good "Bool" trivial

/-- The methods of truth values run as they should. -/
lemma invokeTruth_leads (h : inner.Regular R) (good : R.Good s) (method : String)
    {args : List Justified} (fit : Justified.AllFit s args) :
    R.Leads [] NativeFault.Calm Fitting s
      (Native.invokeTruth inner truth truthWhy method why args s) := by
  unfold Native.invokeTruth
  split
  · exact withNone_leads good (made_leads h good "String" trivial)
  · exact withOne_leads good fit fun other _ => compareTruths_leads h good other
  · exact .refuse good trivial

end Truth

/-! ## Handing over -/

/-- The methods of all built-in classes run as they should. -/
lemma invoke_leads (h : inner.Regular R) (good : R.Good s) {this : ScopeId} {handle : Handle}
    (known : (Value.object this).Fits s) (found : s.handle? (.object this) = some handle)
    (method : String) {args : List Justified} (fit : Justified.AllFit s args) :
    R.Leads [] NativeFault.Calm Fitting s
      (Native.invoke inner this handle method why args s) := by
  have state := hasState_of_handle found
  have fits := good.orderly.handle found
  cases handle with
  | text => exact invokeText_leads h good known method fit
  | list => exact invokeList_leads h good state fits method fit
  | dict => exact invokeDict_leads h good state fits method fit
  | truth => exact invokeTruth_leads h good method fit
  | number => exact invokeNumber_leads h good method fit

/-- Parameters that are looked up have fitting values. -/
lemma lookupVariables_leads (good : R.Good s) (loc : Location) (params : List String) :
    R.Leads v Failure.Calm AllFitting s (lookupVariables loc why params s) := by
  induction params generalizing s with
  | nil => exact .pure good .nil
  | cons name rest ih =>
    refine .bind good (lookupVariable_leads good name loc) fun info s1 good _ ⟨fits, _⟩ => ?_
    refine .bind good (ih good) fun infos s2 good later fit => ?_
    exact .pure good (.cons (fits.grows later.grows) fit)

/-- The body of a built-in method returns a fitting value. -/
lemma invokeNative_leads (h : inner.Regular R) (good : R.Good s) (method : String)
    (params : List String) (loc : Location) :
    R.Leads [] Failure.Calm FlowFitting s (invokeNative inner method params loc why s) := by
  refine .bind good (lookupVariable_leads good selfName loc) fun this s1 good _ ⟨fits, _⟩ => ?_
  refine .bind good (lookupVariables_leads good loc params) fun args s2 good later fit => ?_
  have fits := fits.grows later.grows
  refine .ask (.bind good (.full good ..) fun given s3 good later _ => ?_)
  have fits := fits.grows later.grows
  have fit := fit.grows later.grows
  refine .ask (.bind good (.conj good ..) fun history s4 good later _ => .ask ?_)
  have fits := fits.grows later.grows
  have fit := fit.grows later.grows
  obtain ⟨value, because⟩ := this
  cases value with
  | object scope =>
    cases found : s4.handle? (.object scope) with
    | none => exact .because good nofun
    | some handle =>
      refine .bind good (.toEval _ _ (invoke_leads h good fits found method fit))
        fun result s5 good _ fits => ?_
      refine .bind good (.hide good _) fun _ s6 good later _ => ?_
      have fits := fits.grows later.grows
      refine .ask (.bind good (.full good ..) fun forwarded s7 good later _ => ?_)
      have fits := fits.grows later.grows
      refine .bind good (.hide good _) fun _ s8 good later _ => ?_
      exact .pure good (fits.grows later.grows)
  | _ => exact .because good nofun

end Regime

end Because
