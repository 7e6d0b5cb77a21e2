import Because.Program.Build
import Because.Proofs.Declaration
import Because.Proofs.Quotation

/-!
# The history of a counter

An object of a class counts how often it has been incremented. Each increment reads the count that
the one before has left, and gives the sum of this and one to the property that holds it. So what
explains the count grows by a fixed number of lines on which the new call stands, and in these what
explained the count before stands once.
-/

namespace Because

namespace Counter

/-- How the reasons for what a call of `increment` does begin. -/
def called : String := "called increment"

/-- The constructor of the class. -/
def starts (line : Nat → Location) : Function where
  name := initName
  params := [selfName]
  body := [.setSelfProperty (line 2) "n" (.num (line 2) 0)]
  loc := line 2

/-- The sum of the count and one. -/
def oneMore (line : Nat → Location) : Expr :=
  .plus (line 3) [.selfProperty (line 3) "n", .num (line 3) 1]

/-- The method that counts. -/
def increments (line : Nat → Location) : Function where
  name := "increment"
  params := [selfName]
  body := [.setSelfProperty (line 3) "n" (oneMore line)]
  loc := line 3

/-- The class of counters. -/
def declaration (line : Nat → Location) : Class :=
  ClassDecl.start "Counter" |>.withFields ["n"]
    |>.init (line 2) [] [.setSelfProperty (line 2) "n" (.num (line 2) 0)]
    |>.method (line 3) "increment" [] [.setSelfProperty (line 3) "n" (oneMore line)]

/-- The variable is declared as a new counter. -/
def creation (line : Nat → Location) : Stmt :=
  .declare (line 4) "c" (.new (line 4) "Counter" [])

/-- The counter is incremented. -/
def increment (line : Nat → Location) : Stmt :=
  .effect (line 5) (.methodCall (line 5) (.get (line 5) "c") "increment" [])

/-- What the counter has counted in the end. -/
def readout (line : Nat → Location) : Stmt :=
  .declare (line 6) "total" (.property (line 6) (.get (line 6) "c") "n")

/-- The program that increments a counter so often and then reads it. -/
def program (line : Nat → Location) (count : Nat) : Program :=
  .declareClass (line 1) (declaration line) :: creation line ::
    (List.replicate count (increment line) ++ [readout line])

/-- The constructor and the method that counts have different names. -/
lemma declaration_distinct (line : Nat → Location) :
    ((declaration line).methods.map FunctionDecl.name).Nodup := by
  change [initName, "increment"].Nodup
  decide

/-- The text on the calls of `increment` stands apart from what surrounds descriptions. -/
lemma called_apart : Apart called where
  first := ⟨'c', by decide, by decide, by decide⟩
  last := ⟨'t', by decide, by decide⟩

end Counter

/-! ## Texts -/

/-- Neither the character nor a line break stands in the text. -/
def Without (c : Char) (text : String) : Prop := c ∉ text.toList ∧ '\n' ∉ text.toList

instance (c : Char) (text : String) : Decidable (Without c text) :=
  inferInstanceAs (Decidable (_ ∧ _))

namespace Without

variable {c : Char} {text other needle : String}

/-- Where one of its characters does not stand, a text does not stand either. -/
lemma clear (h : Without c text) (mem : c ∈ needle.toList) : Clear needle text :=
  .of_absent mem h.1 h.2

/-- A character that stands in neither part does not stand in the whole. -/
lemma append (h : Without c text) (h' : Without c other) : Without c (text ++ other) := by
  rw [Without, String.toList_append, List.mem_append, List.mem_append, not_or, not_or]
  exact ⟨⟨h.1, h'.1⟩, h.2, h'.2⟩

/-- What is no digit does not stand in a number. -/
lemma number (other : c.isDigit = false) (n : Nat) : Without c (toString n) := by
  have digits : (toString n).toList = Nat.toDigits 10 n := by simp
  have absent (d : Char) (other : d.isDigit = false) : d ∉ Nat.toDigits 10 n := by
    intro mem
    rw [Nat.isDigit_of_mem_toDigits (by decide) (by decide) mem] at other
    cases other
  rw [Without, digits]
  exact ⟨absent c other, absent '\n' (by decide)⟩

/-- Besides its own characters, the text of a variable has at most parentheses. -/
lemma variableText (h : Without c text) (opening : Without c "(") (closing : Without c ")") :
    Without c (Node.variableText text) := by
  rw [Node.variableText]
  split
  · exact (opening.append h).append closing
  · exact h

end Without

namespace Counter

/-- How a counter is shown. -/
def label (m : Nat) : String := s!"Counter@{m}"

variable {c : Char} {text : String}

/-- What is no digit does not stand in the label of a counter, if it does not stand before the
number. -/
lemma label_without (absent : Without c "Counter@") (other : c.isDigit = false) (m : Nat) :
    Without c (label m) :=
  absent.append (.number other m)

/-- The text that says which class a counter has does not say that anything has been called. -/
lemma served_clear (absent : Without 'm' text) (m : Nat) :
    Clear called s!"({label m}) instanceof {text}" := by
  have opening : Without 'm' "(" := by decide
  have between : Without 'm' ") instanceof " := by decide
  have counter := opening.append (label_without (by decide) (by decide) m)
  exact ((counter.append between).append absent).clear (by decide)

/-- Nor does one that says that a variable is a counter. -/
lemma variable_clear (absent : Without 'm' text) (m : Nat) :
    Clear called s!"{text} = {label m}" := by
  have equals : Without 'm' " = " := by decide
  exact ((absent.append equals).append (label_without (by decide) (by decide) m)).clear (by decide)

/-- Nor does one that says what a number is. -/
lemma equals_clear (absent : Without 'i' text) (k : Nat) :
    Clear called s!"{text} = {(k : Int)}" := by
  have equals : Without 'i' " = " := by decide
  exact ((absent.append equals).append (.number (by decide) k)).clear (by decide)

/-- The property of a counter that holds the count. -/
def countText (m : Nat) : String := Node.variableText (propertyText (label m) "n")

/-- No `i` stands in the text of the property that holds the count. -/
lemma count_without (m : Nat) : Without 'i' (countText m) := by
  have dot : Without 'i' "." := by decide
  have property : Without 'i' "n" := by decide
  have owner : Without 'i' (Node.variableText (label m)) :=
    (label_without (by decide) (by decide) m).variableText (by decide) (by decide)
  exact ((owner.append dot).append property).variableText (by decide) (by decide)

/-- No `i` stands in the text of the sum of the count and one. -/
lemma oneMore_without (line : Nat → Location) :
    Without 'i' (Node.variableText (oneMore line).text) := by
  have text : (oneMore line).text = "get self.n+new Num(1)" := rfl
  rw [text]
  decide

end Counter

namespace Session

variable {s s' now : Session} {line : Nat → Location} {id : ClassId} {object : ScopeId} {k : Nat}
  {asks quoted : List ReasonId} {why w : ReasonId} {steps : Nat} {f : FunctionId}

open Counter

/-! ## Counters -/

/-- The class is that of counters. -/
structure Counts (s : Session) (line : Nat → Location) (id : ClassId) : Prop where
  made : Nat.lt id s.classes.size
  name : (s.classAt id).name = "Counter"
  parent : (s.classAt id).parent = none
  fields : (s.classAt id).fields = ["n"]
  builtin : (s.classAt id).builtin = none
  native : (s.classAt id).nativeBase = none
  starts : ∃ f, s.Overrides id (starts line) f
  increments : ∃ f, s.Overrides id (increments line) f

/-- The class stays that of counters, whatever comes on top. -/
lemma Counts.enlarged (h : s.Counts line id) (enlarges : s.Enlarges s') : s'.Counts line id := by
  obtain ⟨made, name, parent, fields, builtin, native, ⟨f, starts⟩, ⟨g, increments⟩⟩ := h
  rw [← enlarges.classAt id made] at name parent fields builtin native
  exact ⟨Nat.lt_of_lt_of_le made enlarges.classes, name, parent, fields, builtin, native,
    ⟨f, starts.enlarged made enlarges⟩, ⟨g, increments.enlarged made enlarges⟩⟩

/-- A class that is declared so is that of counters. -/
lemma Introduces.counts (h : s.Introduces (declaration line) none why s') :
    s'.Counts line s.classes.size := by
  have distinct := declaration_distinct line
  refine ⟨Nat.lt_of_lt_of_eq (Nat.lt_succ_self _) h.classes.symm, ?_, ?_, ?_, ?_, ?_,
    h.method distinct List.mem_cons_self,
    h.method distinct (List.mem_cons_of_mem _ List.mem_cons_self)⟩
  all_goals
    rw [h.new]
    rfl

/-- The object is a counter that has counted so far, and these numbers are quoted by what explains
the count. -/
structure Counting (s : Session) (object : ScopeId) (k : Nat) (quoted : List ReasonId) :
    Prop where
  made : Nat.lt object s.scopes.size
  shown : ∃ m, s.render (.object object) = label m
  holds : ∃ j v, s.scopes.local? object "n" = some ⟨.object j, v⟩ ∧
    Is (Handle.number (some k)) (.object j) s ∧ s.graph.Quotes called v quoted

/-- A counter stays as it is as long as its property is not written. -/
lemma Counting.stays {written : Places} {restated : ScopeId → Prop} (h : s.Counting object k quoted)
    (ordered : s.graph.Ordered) (alters : s.Alters written restated s')
    (grows : s.graph.Grows s'.graph) (spared : ¬ written object "n") (same : ∀ i, ¬ restated i) :
    s'.Counting object k quoted := by
  obtain ⟨made, ⟨m, shown⟩, j, v, found, is, quotes⟩ := h
  refine ⟨Nat.lt_of_lt_of_le made alters.scopes, ⟨m, ?_⟩, j, v, ?_, ?_,
    quotes.later ordered grows⟩
  · rw [alters.render made (same _), shown]
  · rw [alters.locals object "n" made spared, found]
  · exact is.alters alters fun i _ => same i

/-- A counter stays as it is while only reasons and objects are made. -/
lemma Counting.adds (h : s.Counting object k quoted) (ordered : s.graph.Ordered) (adds : s.Adds s')
    (grows : s.graph.Grows s'.graph) : s'.Counting object k quoted :=
  h.stays ordered adds.unaltered grows not_false fun _ => not_false

/-- What a property of a counter is said to be is not that anything has been called. -/
lemma Counting.count_clear {value : Value} (m : Nat) (is : Is (Handle.number (some k)) value s) :
    Clear called s!"{countText m} = {s.render value}" := by
  rw [is.shows_number]
  exact equals_clear (count_without m) k

/-- A counter gets to its constructor with the property that is to hold the count. -/
lemma Counts.gets_to_constructor (h : s.Counts line id) (able : s.Able)
    (fields : s.allFields id = ["n"]) :
    let start := s.atConstructor "Counter" id none
    start.Able ∧ s.Adds start ∧ s.graph.Grows start.graph ∧
      start.graph.Quotes called (s.furnished "Counter" id none).graph.size [] ∧
      start.scopes.binds s.scopes.size "n" = true ∧
      start.classOf? (.object s.scopes.size) = some id ∧
      ∃ m, start.render (.object s.scopes.size) = label m := by
  intro start
  let made := s.furnished "Counter" id none
  have specified : made.Adduces (.text s!"my program specified a {(s.classAt id).name}") [] start :=
    made.records_text _
  have ready : s.Ready id none start := ready_atConstructor ..
  have ordered : made.graph.Ordered := furnished_ordered able.ordered
  have adds : s.Adds start :=
    (furnished_adds "Counter" id none).trans (.of_notes specified.toNotes)
  have clear : Clear called s!"my program specified a {(s.classAt id).name}" := by
    rw [h.name]
    decide
  refine ⟨⟨able.after adds ⟨rfl, rfl⟩, specified.ordered ordered⟩, adds,
    (furnished_grows s "Counter" id none).trans specified.grows,
    specified.quotes called_apart ordered .nil List.nodup_nil clear, ?_, ?_, s.nextObject, ?_⟩
  · rw [Scopes.binds, ready.bindings, Assoc.contains_append, emptyFields_contains, fields]
    rfl
  · exact congrArg (Option.map ObjectTag.classId) ready.tag
  · have scope : start.scopes.scopeAt s.scopes.size = _ := Regime.scopeAt_withObject
    simp only [render, Session.handle?, tag?, Value.scope?, Option.bind_some, Scopes.description,
      scope]
    rfl

/-- A counter has counted nothing when it is new, and its making says nothing of a call of
`increment`. -/
lemma Counts.newObject_cites (h : s.Counts line id) (inOrder : s.InOrder) (able : s.Able)
    (names : s.Names .num) (room : s.calls.isFull = false)
    (found : s.lookupClass? "Counter" = some id) (asked : s.graph.Quotes called why []) :
    ∃ w s', s.Cites called (Because.newObject (.within (steps + 4)) "Counter" [] why s)
        (.object s.scopes.size) [] w s' ∧ s'.classOf? (.object s.scopes.size) = some id ∧
      s'.Counting s.scopes.size 0 [] := by
  have fields : s.allFields id = ["n"] := by
    have topmost := FieldsOf.topmost h.parent
    rw [h.fields] at topmost
    exact (inOrder.rooted.fieldsOf id).unique topmost
  have native : s.nativeBuiltin? id = none := by
    rw [nativeBuiltin?, h.native]
    rfl
  obtain ⟨f, starts⟩ := h.starts
  obtain ⟨able1, adds1, grows1, self, bound, ofClass, m, shown⟩ :=
    h.gets_to_constructor able fields
  have calls := @newObject_calls s "Counter" id none [] found h.builtin why
    (.within (steps + 4)) (.plain native) (fields ▸ by decide) f starts.table
  let start := s.atConstructor "Counter" id none
  have is : start.functionAt f = .ofMethod id (Counter.starts line) := starts.function
  have made : Nat.lt s.scopes.size start.scopes.size :=
    Nat.lt_of_lt_of_eq (Nat.lt_succ_self _) (Scopes.size_push ..).symm
  have single : '\n' ∉ s!"called {initName}".toList := by decide
  have silent : [] =
      (if Text.mentions called s!"called {initName}" then [start.graph.size] else []) ++ [] := rfl
  obtain ⟨j, v, s2, puts, zero⟩ := able1.call_sets called_apart (asked.later able.ordered grows1)
    (P := Is (Handle.number (some 0))) (stays_is _) is rfl rfl room self bound single silent
    (shown ▸ variable_clear (by decide) m) (fun j t is => shown ▸ Counting.count_clear m is)
    fun now later opens enters tells able2 inside => by
      have adds := (adds1.trans enters.begun.adds).trans (.of_notes tells.toNotes)
      exact able2.num_cites called_apart inside (adds.names able.toWorks names)
        (by decide) (by decide) (by decide) steps (line 2)
  obtain ⟨_, done, -⟩ := puts.done
  have asked2 := (asked.later able.ordered grows1).later able1.ordered puts.grows
  have known : s2.graph.Knows (why :: reasons []) := List.forall_mem_singleton.2 asked2.lt
  obtain ⟨s3, records, describes⟩ := describeNew_records s.scopes.size "Counter" known
  have clear : Clear called "newObject Counter()" := by decide
  have quotes := records.quotes called_apart puts.ordered (.cons asked2 .nil)
    (List.nodup_singleton _) clear
  have adds2 : s2.Adds s3 := .of_notes records.toNotes
  have alters := puts.alters.trans (adds2.alters _ _)
  refine ⟨s2.graph.size, s3, ⟨?_, (puts.adds adds1 (Nat.le_refl _)).trans adds2, ?_,
    records.ordered puts.ordered, (grows1.trans puts.grows).trans records.grows,
    Nat.le_trans grows1.size puts.grows.size, quotes⟩, ?_, ?_⟩
  · rw [calls]
    exact (Action.bind_done done).trans describes
  · have quiet : s.Quiet start := ⟨⟨rfl, rfl⟩, rfl⟩
    exact (quiet.trans puts.quiet).trans (.of_notes records.toNotes)
  · exact alters.classOf? ofClass
  · refine ⟨Nat.lt_of_lt_of_le made alters.scopes, ⟨m, (alters.render made not_false).trans shown⟩,
      j, v, ?_, (stays_is _).adds adds2 zero, puts.quotes.later puts.ordered records.grows⟩
    rw [adds2.local? (Nat.lt_of_lt_of_le made puts.alters.scopes)]
    exact puts.found made

/-- The expression `new Counter()` gives a counter that has counted nothing, and nothing that
explains it says that `increment` has been called. -/
lemma Counts.new_cites (h : s.Counts line id) (inOrder : s.InOrder) (able : s.Able)
    (names : s.Names .num) (room : s.calls.isFull = false)
    (found : s.lookupClass? "Counter" = some id) (asked : s.graph.Quotes called why [])
    (steps : Nat) : ∃ i w s',
      s.Cites called (Because.eval (steps + 5) (.new (line 4) "Counter" []) why s)
        (.object i) [] w s' ∧ s'.classOf? (.object i) = some id ∧ s'.Counting i 0 [] := by
  have nothing : evalArgs (.within (steps + 4)) why [] s = .done [] s := rfl
  obtain ⟨s1, records, begins⟩ :=
    evalNew_runs nothing (List.forall_mem_singleton.2 asked.lt) "Counter"
  have notes : s.Notes s1 := records.toNotes
  have adds := Adds.of_notes notes
  have clear : Clear called "new Counter()" := by decide
  have context := records.quotes called_apart able.ordered (.cons asked .nil)
    (List.nodup_singleton _) clear
  obtain ⟨w, s', cites, ofClass, counting⟩ := (h.enlarged adds.enlarges).newObject_cites
    (notes.inOrder inOrder) ⟨able.notes notes, records.ordered able.ordered⟩
    (adds.names able.toWorks names) ((Quiet.of_notes notes).calls ▸ room)
    ((adds.lookupClass? inOrder.global.made _).trans found) context
  have cites := cites.after adds (.of_notes notes) records.grows
  exact ⟨_, w, s', { cites with done := begins.trans cites.done }, ofClass, counting⟩

/-! ## Increments -/

/-- What is said of each call of `increment`: the assignment, the sum, the reads of the count and of
the counter, and the number one hold because of it. -/
def around (call : ReasonId) (quoted : List ReasonId) : List ReasonId :=
  [call, call, call, call] ++ quoted ++ [call]

/-- Each increment adds five lines on which the call stands. -/
lemma around_length (call : ReasonId) (quoted : List ReasonId) :
    (around call quoted).length = quoted.length + 5 := by
  simp [around]

/-- Around what has been quoted before, only the new call is quoted. -/
lemma mem_around {call other : ReasonId} (mem : other ∈ around call quoted) :
    other = call ∨ other ∈ quoted := by
  simp only [around, List.mem_append, List.mem_cons, List.not_mem_nil, or_false, or_self] at mem
  tauto

/-- Of a new call, and of what was quoted before, each is quoted once if repetitions are left out.
-/
lemma around_distinct {call : ReasonId} (new : call ∉ quoted) :
    (around call quoted).eraseDups = call :: quoted.eraseDups := by
  have others : quoted.filter (fun id => !id == call) = quoted :=
    List.filter_eq_self.2 fun id mem => by
      simpa using fun same : id = call => new (same ▸ mem)
  simp [around, List.eraseDups_cons, List.filter_append, others]

/-- The count is read from the counter that a variable means. -/
lemma Counting.read (h : s.Counting object k quoted) (able : s.Able) {name : String}
    (absent : Without 'm' (Node.variableText name))
    (means : s.scopes.tryGet s.currentScope name = some ⟨.object object, w⟩)
    (has : s.graph.Quotes called w []) (asked : s.graph.Quotes called why asks) (ne : why ≠ w)
    (older : ∀ stored, s.scopes.local? object "n" = some stored → why ≠ stored.why)
    (steps : Nat) (loc : Location) :
    ∃ j v s', s.Cites called (Because.eval (steps + 2) (.property loc (.get loc name) "n") why s)
        (.object j) (asks ++ (asks ++ []) ++ quoted) v s' ∧
      Is (Handle.number (some k)) (.object j) s' := by
  obtain ⟨made, ⟨m, shown⟩, j, v, found, is, quotes⟩ := h
  obtain ⟨s1, tells, owner⟩ := able.get_cites called_apart asked means has ne
    (shown ▸ variable_clear absent m) steps loc
  have adds := Adds.of_notes tells.toNotes
  have shown1 : s1.render (.object object) = label m :=
    (adds.unaltered.render made not_false).trans shown
  obtain ⟨s2, -, read⟩ := able.property_cites called_apart asked owner found quotes (older _ found)
    (shown1 ▸ Counting.count_clear m ((stays_is _).adds adds is)) loc
  exact ⟨j, _, s2, read, (stays_is _).adds read.adds is⟩

/-- The body of a call gives the sum of the count and one. -/
lemma Counting.sums (h : s.Counting object k quoted) (able : s.Able) (sound : s.Sound)
    (names : s.Names .num) (room : s.calls.isFull = false) (fits : (k : Int) + 1 ≤ Text.maxInt64)
    {call : ReasonId} (asked : s.graph.Quotes called call [call])
    (self : s.scopes.tryGet s.currentScope selfName = some ⟨.object object, w⟩)
    (has : s.graph.Quotes called w []) (ne : call ≠ w)
    (older : ∀ stored, s.scopes.local? object "n" = some stored → call ≠ stored.why) :
    ∃ j v s', s.Cites called (Because.eval (steps + 3) (oneMore line) call s) (.object j)
        ([call, call, call] ++ quoted ++ [call]) v s' ∧
      Is (Handle.number (some (k + 1 : Nat))) (.object j) s' := by
  obtain ⟨j, v, s2, read, is⟩ :=
    h.read able (by decide) self has asked ne older steps (line 3)
  have able2 := read.able able
  have asked2 := read.keeps able.ordered asked
  obtain ⟨j1, v1, s3, one, isOne⟩ := able2.num_cites called_apart asked2
    (read.adds.names able.toWorks names) (n := 1)
    (by decide) (by decide) (by decide) steps (line 3)
  have asked3 := one.keeps able2.ordered asked2
  have adds := read.adds.trans one.adds
  let terms : List Justified := [⟨.object j, v⟩, ⟨.object j1, v1⟩]
  have args : evalArgs (.within (steps + 2)) call
      [.selfProperty (line 3) "n", .num (line 3) 1] s = .done terms s3 :=
    evalArgs_two read.done one.done
  obtain ⟨sound3, -⟩ := sound.gives
    (Comparison.evalArgs_sim (Comparison.tracked_insides (steps + 2)) asked.lt fun _ _ => trivial)
    args
  have are : List.Forall₂ (fun info x => Is (Handle.number x) info.value s3) terms
      [some (k : Int), some 1] :=
    .cons ((stays_is _).adds one.adds is) (.cons isOne .nil)
  -- No operand holds because of the call itself, so the sum rests on three different reasons.
  have distinct : (call :: reasons terms).Nodup := by
    simp [reasons, terms, read.ne asked, one.ne asked2, one.ne read.quotes]
  have folded : [some (1 : Int)].foldlM Native.sum? (some (k : Int)) =
      .ok (some ((k + 1 : Nat) : Int)) := by
    have inside : Text.isInt64 ((k : Int) + 1) = true := by
      have low : Text.minInt64 ≤ (k : Int) + 1 := by
        rw [Text.minInt64]
        omega
      exact Bool.and_eq_true_iff.2 ⟨decide_eq_true low, decide_eq_true fits⟩
    simp only [List.foldlM_cons, List.foldlM_nil, Native.sum?, inside, if_true]
    rfl
  have said (i : ScopeId) (t : Session)
      (is : Is (Handle.number (some ((k + 1 : Nat) : Int))) (.object i) t) :
      Clear called s!"{Node.variableText (oneMore line).text} = {t.render (.object i)}" := by
    rw [is.shows_number]
    exact equals_clear (oneMore_without line) (k + 1)
  obtain ⟨i, u, s4, sum, isSum⟩ := (one.able able2).plus_cites called_apart asked3 joins_numbers
    (adds.names able.toWorks names) ((read.quiet.trans one.quiet).calls ▸ room) sound3 args are
    (.cons (one.keeps able2.ordered read.quotes) (.cons one.quotes .nil)) distinct folded said
  have cites := sum.after adds (read.quiet.trans one.quiet) (read.grows.trans one.grows)
  have all : [call] ++ [[call] ++ ([call] ++ []) ++ quoted, [call]].flatten =
      [call, call, call] ++ quoted ++ [call] := by
    simp
  rw [all] at cites
  exact ⟨i, u, s4, cites, isSum⟩

/-- A call of `increment` gives the property the next count. -/
lemma Counting.puts (h : s.Counting object k quoted) (able : s.Able) (sound : s.Sound)
    (names : s.Names .num) (room : s.calls.isFull = false)
    (deeper : ∀ frame, (s.calls.enter frame).isFull = false)
    (fits : (k : Int) + 1 ≤ Text.maxInt64) (made : Nat.lt id s.classes.size)
    (overrides : s.Overrides id (Counter.increments line) f)
    (isObject : Value.In s.census (.object object))
    (asked : s.graph.Quotes called why []) (self : s.graph.Quotes called w []) :
    ∃ j v s', s.Puts called (Because.call (steps + 5) f [⟨.object object, w⟩] why s) object "n"
        ⟨.object j, v⟩ (around s.graph.size quoted) s' ∧
      Is (Handle.number (some (k + 1 : Nat))) (.object j) s' := by
  have counting := h
  obtain ⟨made', ⟨m, shown⟩, j, v, found, is, quotes⟩ := h
  have bound : s.scopes.binds object "n" = true := congrArg Option.isSome found
  have single : '\n' ∉ s!"called increment".toList := by decide
  have mentioned : [s.graph.size] =
      (if Text.mentions called s!"called increment" then [s.graph.size] else []) ++ [] := rfl
  -- The body begins with the counter as it was, for the scope of the call has come on top.
  have sums (now later : Session) (opens : s.Opens (.ofMethod id (Counter.increments line))
        [⟨.object object, w⟩] why s.graph.size now)
      (enters : s.Enters called (.ofMethod id (Counter.increments line)) ⟨.object object, w⟩
        [s.graph.size] now) (tells : now.Tells later) (able2 : later.Able)
      (inside : later.graph.Quotes called s.graph.size [s.graph.size]) : ∃ j u last,
        later.Cites called (Because.eval (steps + 3) (oneMore line) s.graph.size later) (.object j)
          ([s.graph.size, s.graph.size, s.graph.size] ++ quoted ++ [s.graph.size]) u last ∧
        Is (Handle.number (some (k + 1 : Nat))) (.object j) last := by
      have begun := enters.begun
      have adds := begun.adds.trans (.of_notes tells.toNotes)
      have counting2 := (counting.adds able.ordered begun.adds enters.grows).adds
        enters.able.ordered (.of_notes tells.toNotes) tells.grows
      have sound2 : later.Sound := tells.toNotes.sound (opens.sound sound asked.lt
        (List.forall_mem_singleton.2 ⟨isObject, self.lt⟩) fun owner mem => by
          cases mem
          exact made)
      have calls : later.calls = s.calls.enter _ :=
        (Quiet.of_notes tells.toNotes).calls.trans begun.calls
      refine counting2.sums able2 sound2 (adds.names able.toWorks names) (calls ▸ deeper _) fits
        inside ((tells.toNotes.tryGet selfName).trans (List.forall₂_cons.1 begun.bound).1)
        ((self.later able.ordered enters.grows).later enters.able.ordered tells.grows)
        (Nat.ne_of_gt self.lt) fun stored found2 => ?_
      rw [adds.local? made', found] at found2
      cases found2
      exact Nat.ne_of_gt quotes.lt
  obtain ⟨j', v', s', puts, isSum⟩ := able.call_sets called_apart asked (stays_is _)
    overrides.function rfl rfl room self bound single mentioned
    (shown ▸ variable_clear (by decide) m) (fun j t is => shown ▸ Counting.count_clear m is) sums
  exact ⟨j', v', s', puts, isSum⟩

/-- The counter has the next count. -/
lemma Counting.next {o : Outcome Failure Justified} {j : ScopeId} {v call : ReasonId}
    (h : s.Counting object k quoted)
    (puts : s.Puts called o object "n" ⟨.object j, v⟩ (around call quoted) s')
    (is : Is (Handle.number (some (k + 1 : Nat))) (.object j) s') :
    s'.Counting object (k + 1) (around call quoted) := by
  obtain ⟨made, ⟨m, shown⟩, -⟩ := h
  exact ⟨Nat.lt_of_lt_of_le made puts.alters.scopes,
    ⟨m, (puts.alters.render made not_false).trans shown⟩, j, v, puts.found made, is, puts.quotes⟩

/-- An increment of the counter that a variable means gives its property the next count, and what
explains this quotes a new call. -/
lemma Counting.increments (h : s.Counting object k quoted) (able : s.Able) (sound : s.Sound)
    (names : s.Names .num) (room : s.calls.isFull = false)
    (deeper : ∀ frame, (s.calls.enter frame).isFull = false)
    (fits : (k : Int) + 1 ≤ Text.maxInt64) (counts : s.Counts line id)
    (ofClass : s.classOf? (.object object) = some id)
    (found : s.scopes.tryGet s.currentScope "c" = some ⟨.object object, w⟩)
    (self : s.graph.Quotes called w []) (asked : s.graph.Quotes called why []) (ne : why ≠ w) :
    ∃ call j v s', s.graph.size ≤ call ∧ Nat.lt call s'.graph.size ∧
      s.Puts called (Because.eval (steps + 6)
          (.methodCall (line 5) (.get (line 5) "c") "increment" []) why s) object "n" ⟨.object j, v⟩
        (around call quoted) s' ∧
      Is (Handle.number (some (k + 1 : Nat))) (.object j) s' := by
  obtain ⟨m, shown⟩ := h.shown
  obtain ⟨s1, tells1, read⟩ := able.get_cites called_apart asked found self ne
    (shown ▸ variable_clear (by decide) m) (steps + 4) (line 5)
  have adds1 := Adds.of_notes tells1.toNotes
  have h1 := h.adds able.ordered adds1 tells1.grows
  -- Three reasons are given for the method that runs, and none of them mentions a call.
  obtain ⟨f, overrides⟩ := (counts.enlarged adds1.enlarges).increments
  obtain ⟨n, shown1⟩ := h1.shown
  have name : (s1.classAt id).name = "Counter" := (adds1.classAt id).symm ▸ counts.name
  have served : Clear called
      s!"({s1.render (.object object)}) instanceof {(s1.classAt id).text}" := by
    have text : (s1.classAt id).text = "classdef:Counter" := by
      rw [ClassDef.text, adds1.classAt, counts.builtin, counts.name]
      rfl
    rw [shown1, text]
    exact served_clear (by decide) n
  have chosen : Clear called (Kind.equal selfName (s1.classAt id).name).wording := by
    rw [name]
    decide
  let expr : Expr := .methodCall (line 5) (.get (line 5) "c") "increment" []
  have evaluated : Clear called s!"Evaluated {expr.text}" := by
    have text : expr.text = "(get c).increment()" := rfl
    rw [text]
    decide
  obtain ⟨context, t, tells2, ordered2, because, conveys⟩ := able.methodCall_cites called_apart
    asked read (adds1.classOf? ofClass) overrides.table served chosen evaluated
  have tells := tells1.trans tells2
  have adds := Adds.of_notes tells.toNotes
  obtain ⟨j, v, s2, puts, is⟩ := (h.adds able.ordered adds tells.grows).puts
    ⟨able.notes tells.toNotes, ordered2⟩ (tells.toNotes.sound sound) (adds.names able.toWorks names)
    ((Quiet.of_notes tells.toNotes).calls ▸ room) ((Quiet.of_notes tells.toNotes).calls ▸ deeper)
    fits (counts.enlarged adds.enlarges).made
    (overrides.enlarged (counts.enlarged adds1.enlarges).made
      (Adds.of_notes tells2.toNotes).enlarges)
    (object_lies (adds.classOf? ofClass)) because
    (read.quotes.later read.ordered tells2.grows)
  obtain ⟨_, done, fresh⟩ := puts.done
  obtain ⟨s', tells3, puts'⟩ := puts.reported (conveys.gives done puts.grows.size fresh)
  exact ⟨t.graph.size, j, v, s', tells.graph, Nat.lt_of_le_of_lt puts'.new puts'.quotes.lt,
    puts'.after tells, (stays_is _).adds (.of_notes tells3.toNotes) is⟩

/-! ## Statements -/

/-- In the default configuration there is room for two calls at once. -/
lemma Outside.roomy {taken : List String} {console : Console} (h : s.Outside {} taken console) :
    s.calls.isFull = false ∧ ∀ frame, (s.calls.enter frame).isFull = false := by
  rw [h.calls]
  exact ⟨rfl, fun _ => rfl⟩

/-- The names that the program has taken before it is read what the counter has counted. -/
def takenNames : List String := "c" :: "Counter" :: Builtin.all.map Builtin.name

/-- The variable means a counter that has been incremented so often. What explains the count quotes
these calls and no others, on five lines each. -/
structure Incremented (s : Session) (console : Console) (line : Nat → Location) (id : ClassId)
    (object : ScopeId) (k : Nat) : Prop where
  outside : s.Outside {} takenNames console
  counts : s.Counts line id
  ofClass : s.classOf? (.object object) = some id
  means : ∃ w, s.global? "c" = some ⟨.object object, w⟩ ∧ s.graph.Quotes called w []
  counting : ∃ quoted, s.Counting object k quoted ∧ (∀ call ∈ quoted, Nat.lt call s.graph.size) ∧
    quoted.length = 5 * k ∧ quoted.eraseDups.length = k

namespace Incremented

variable {console : Console} (h : s.Incremented console line id object k)

include h

/-- A counter is not the global scope. -/
lemma apart : globalScope ≠ object := by
  obtain ⟨quoted, counting, -⟩ := h.counting
  obtain ⟨j, v, found, -⟩ := counting.holds
  rintro rfl
  have bound : s.scopes.binds globalScope "n" = true := congrArg Option.isSome found
  rw [h.outside.free "n" (by decide)] at bound
  cases bound

/-- The statement increments the counter. -/
lemma executes (top : now.Outside {} takenNames console)
    (records : s.Adduces (.text s!"{(increment line).text} is in my program") [] now)
    (fits : (k : Int) + 1 ≤ Text.maxInt64) :
    ∃ s', Because.exec (steps + 7) (increment line) s.graph.size now = .done .normal s' ∧
      s'.Incremented console line id object (k + 1) := by
  obtain ⟨w, found, self⟩ := h.means
  obtain ⟨quoted, counting, old, lines, calls⟩ := h.counting
  have ordered := h.outside.toHealthy.sound.ordered
  have adds := Adds.of_notes records.toNotes
  have clear : Clear called s!"{(increment line).text} is in my program" := by
    have text : (increment line).text = "(get c).increment()" := rfl
    rw [text]
    decide
  have found1 : now.global? "c" = some ⟨.object object, w⟩ := by
    rw [global?, records.scopes]
    exact found
  obtain ⟨room, deeper⟩ := top.roomy
  have counts := h.counts.enlarged adds.enlarges
  have counting1 := counting.adds ordered adds records.grows
  obtain ⟨call, j, v, s', later, recorded, puts, is⟩ := counting1.increments top.toHealthy.able
    top.toHealthy.sound (top.names .num) room deeper fits counts (adds.classOf? h.ofClass)
    (top.currentScope ▸ tryGet_of_local found1) (self.later ordered records.grows)
    (records.quotes called_apart ordered .nil List.nodup_nil clear) (Nat.ne_of_gt self.lt)
  obtain ⟨u, done, -⟩ := puts.done
  have ends : Because.exec (steps + 7) (increment line) s.graph.size now = .done .normal s' := by
    change (Because.eval (steps + 6) (.methodCall (line 5) (.get (line 5) "c") "increment" [])
      s.graph.size >>= fun _ => pure Flow.normal : Eval Flow) now = _
    rw [Action.bind_done done]
    rfl
  refine ⟨s', ends, ?_, counts.enlarged puts.alters.enlarges,
    puts.alters.classOf? (adds.classOf? h.ofClass), ⟨w, ?_, ?_⟩, _, counting1.next puts is,
    ?_, ?_, ?_⟩
  · exact top.after (top.toHealthy.exec records.fresh ends).1 puts.alters
      (fun _ wrote => absurd wrote.1 h.apart) (List.forall_mem_nil _) puts.quiet.toSameStacks
      (puts.quiet.console.trans top.shows)
  · rw [global?, puts.alters.locals globalScope "c" top.works.made fun wrote => h.apart wrote.1]
    exact found1
  · exact (self.later ordered records.grows).later top.toHealthy.sound.ordered puts.grows
  · intro other mem
    obtain rfl | mem := mem_around mem
    · exact recorded
    · exact Nat.lt_of_lt_of_le (old other mem) (Nat.le_trans records.grows.size puts.grows.size)
  · rw [around_length, lines, Nat.mul_succ]
  · have new : call ∉ quoted := fun mem =>
      Nat.not_le_of_lt (old call mem) (Nat.le_trans records.grows.size later)
    rw [around_distinct new, List.length_cons, calls]

/-- A program goes on after an increment. -/
lemma next (steps : Nat) (fits : (k : Int) + 1 ≤ Text.maxInt64) (rest : Program) :
    ∃ s', s'.Incremented console line id object (k + 1) ∧
      Because.runProgram (.within (steps + 7)) (increment line :: rest) s =
        Because.runProgram (.within (steps + 7)) rest s' :=
  h.outside.next_tells (steps + 7) rest fun _ top records => h.executes top records fits

omit h in
/-- A program goes on after as many increments as it has. -/
lemma runs (h : s.Incremented console line id object k) (steps : Nat) {count : Nat}
    (fits : ((k + count : Nat) : Int) ≤ Text.maxInt64) (rest : Program) :
    ∃ s', s'.Incremented console line id object (k + count) ∧
      Because.runProgram (.within (steps + 7)) (List.replicate count (increment line) ++ rest) s =
        Because.runProgram (.within (steps + 7)) rest s' := by
  induction count generalizing s k with
  | zero => exact ⟨s, h, rfl⟩
  | succ count ih =>
    obtain ⟨s1, once, first⟩ :=
      h.next steps (by omega) (List.replicate count (increment line) ++ rest)
    have same : k + 1 + count = k + (count + 1) := by omega
    obtain ⟨s', more, others⟩ := ih once (by rwa [same])
    exact ⟨s', same ▸ more, first.trans others⟩

/-- The last statement reads what the counter has counted. -/
lemma reads (top : now.Outside {} takenNames console)
    (records : s.Adduces (.text s!"{(readout line).text} is in my program") [] now) :
    ∃ s', Because.exec (steps + 3) (readout line) s.graph.size now = .done .normal s' ∧
      ∃ j v quoted, s'.global? "total" = some ⟨.object j, v⟩ ∧
        Is (Handle.number (some k)) (.object j) s' ∧ s'.graph.Ordered ∧
        s'.graph.Quotes called v quoted ∧ quoted.length = 5 * k ∧ quoted.eraseDups.length = k := by
  obtain ⟨w, found, self⟩ := h.means
  obtain ⟨quoted, counting, -, lines, calls⟩ := h.counting
  have ordered := h.outside.toHealthy.sound.ordered
  have clear : Clear called s!"{(readout line).text} is in my program" := by
    have text : (readout line).text = "total=get c.n" := rfl
    rw [text]
    decide
  have asked := records.quotes called_apart ordered .nil List.nodup_nil clear
  have new : "total" ∉ takenNames := by decide
  -- The variable is there before the counter is read, but it is not the property of the counter.
  let start := now.withVariable "total"
  have able : start.Able :=
    (top.toHealthy.makesVariable records.fresh (top.currentScope ▸ top.free _ new)).2.able
  have alters := ((Adds.of_notes records.toNotes).alters _ _).trans
    (top.writes_global (now.withVariable_alters "total"))
  have declared : now.graph.Grows start.graph := .push ..
  have grows : s.graph.Grows start.graph := records.grows.trans declared
  have means : start.scopes.tryGet start.currentScope "c" = some ⟨.object object, w⟩ := by
    have current : start.currentScope = globalScope := top.currentScope
    rw [current]
    exact tryGet_of_local ((alters.locals globalScope "c" h.outside.works.made fun wrote =>
      absurd wrote.2 (by decide)).trans found)
  have older (stored : Justified) (found : start.scopes.local? object "n" = some stored) :
      s.graph.size ≠ stored.why := by
    obtain ⟨j, v, holds, -, quotes⟩ := counting.holds
    rw [alters.locals object "n" counting.made fun wrote => absurd wrote.2 (by decide), holds]
      at found
    cases found
    exact Nat.ne_of_gt quotes.lt
  have counting1 : start.Counting object k quoted := counting.stays ordered alters grows
    (fun wrote => absurd wrote.2 (by decide)) fun _ => not_false
  obtain ⟨j, v, s2, read, is⟩ := counting1.read able (by decide) means
    (self.later ordered grows) (asked.later top.toHealthy.sound.ordered declared)
    (Nat.ne_of_gt self.lt) older steps (line 6)
  let total := "total"
  have said : Clear called s!"{Node.variableText total} = {s2.render (.object j)}" := by
    rw [is.shows_number]
    exact equals_clear (by decide) k
  obtain ⟨s', done, outside, bound, -, total, quotes⟩ :=
    top.declare_cites called_apart asked new read said (line 6)
  exact ⟨s', done, j, _, quoted, total, stays_is _ bound is, outside.toHealthy.sound.ordered,
    quotes, lines, calls⟩

end Incremented

/-- The statement makes a counter. -/
lemma Counts.executes {console : Console} (h : s.Counts line id)
    (found : s.lookupClass? "Counter" = some id)
    (outside : s.Outside {} ("Counter" :: Builtin.all.map Builtin.name) console)
    (top : now.Outside {} ("Counter" :: Builtin.all.map Builtin.name) console)
    (records : s.Adduces (.text s!"{(creation line).text} is in my program") [] now) :
    ∃ s', Because.exec (steps + 6) (creation line) s.graph.size now = .done .normal s' ∧
      ∃ object, s'.Incremented console line id object 0 := by
  have ordered := outside.toHealthy.sound.ordered
  have clear : Clear called s!"{(creation line).text} is in my program" := by
    have text : (creation line).text = "c=new Counter()" := rfl
    rw [text]
    decide
  have asked := records.quotes called_apart ordered .nil List.nodup_nil clear
  have new : "c" ∉ "Counter" :: Builtin.all.map Builtin.name := by decide
  -- The variable is there before the counter is made.
  let start := now.withVariable "c"
  have healthy : start.Healthy :=
    (top.toHealthy.makesVariable records.fresh (top.currentScope ▸ top.free _ new)).2
  have written := top.writes_global (now.withVariable_alters "c")
  have alters := ((Adds.of_notes records.toNotes).alters _ _).trans written
  have found1 : start.lookupClass? "Counter" = some id := by
    rw [lookupClass?, global?, alters.locals globalScope "Counter" outside.works.made fun wrote =>
      absurd wrote.2 (by decide), ← global?, ← lookupClass?, found]
  have names : start.Names .num :=
    written.names top.works (fun wrote => absurd wrote.2 (by decide)) (top.names .num)
  have room : start.calls.isFull = false := top.roomy.1
  have declared : now.graph.Grows start.graph := .push ..
  obtain ⟨object, w, s2, cites, ofClass, counting⟩ :=
    (h.enlarged alters.enlarges).new_cites healthy.inOrder healthy.able names room found1
      (asked.later top.toHealthy.sound.ordered declared) steps
  obtain ⟨m, shown⟩ := counting.shown
  obtain ⟨s', done, outside', bound, grows, means, quotes⟩ :=
    top.declare_cites called_apart asked new cites (shown ▸ variable_clear (by decide) m) (line 4)
  exact ⟨s', done, object, outside', (h.enlarged alters.enlarges).enlarged
    ((cites.adds.alters _ _).trans bound).enlarges, bound.classOf? ofClass, ⟨_, means, quotes⟩,
    [], counting.stays cites.ordered bound grows (fun wrote => absurd wrote.2 (by decide))
      fun _ => not_false, List.forall_mem_nil _, rfl, rfl⟩

/-- The declarations of the class and of the counter. -/
lemma Outside.counts_from {console : Console}
    (h : s.Outside {} (Builtin.all.map Builtin.name) console) (line : Nat → Location) (steps : Nat)
    (rest : Program) : ∃ s' id object, s'.Incremented console line id object 0 ∧
      Because.runProgram (.within (steps + 6))
          (.declareClass (line 1) (declaration line) :: creation line :: rest) s =
        Because.runProgram (.within (steps + 6)) rest s' := by
  have finds : s.Finds (declaration line) none := rfl
  have new : (declaration line).name ∉ Builtin.all.map Builtin.name := by
    change "Counter" ∉ Builtin.all.map Builtin.name
    decide
  obtain ⟨_, s1, outside, introduces, runs⟩ := h.declaresClass (steps + 5) new finds
    (declaration_distinct line) (line 1) (creation line :: rest)
  have counts : s1.Counts line s.classes.size := introduces.counts
  have found : s1.lookupClass? "Counter" = some s.classes.size := introduces.lookupClass?
  obtain ⟨s2, ⟨object, incremented⟩, runs'⟩ := outside.next_tells (steps + 6) rest
    (R := fun s2 => ∃ object, s2.Incremented console line s.classes.size object 0)
    fun _ top records => counts.executes found outside top records
  exact ⟨s2, _, object, incremented, runs.trans runs'⟩

end Session

/-- The program increments a counter so often in a new session and ends well. Then the variable
means this number, and the whole explanation why quotes as many different calls of `increment`, on
five lines each. -/
theorem Counter.program_counts (line : Nat → Location) {count : Nat}
    (fits : (count : Int) ≤ Text.maxInt64) (console : Console) (steps : Nat) :
    ∃ s' : Session, Because.runProgram (.within (steps + 7)) (program line count)
        (Session.start {} console) = .done () s' ∧
      ∃ value why, s'.global? "total" = some ⟨value, why⟩ ∧
        Session.Is (Handle.number (some count)) value s' ∧ s'.render value = toString count ∧
        ∃ text, s'.explain why none = .ok text ∧
          (Text.linesWith called text).length = 5 * count ∧
          (Text.idsOn called text).length = count := by
  obtain ⟨s1, id, object, new, begins⟩ :=
    (Session.start_outside {} console).counts_from line (steps + 1)
      (List.replicate count (increment line) ++ [readout line])
  rw [← Nat.zero_add count] at fits
  obtain ⟨s2, counted, goesOn⟩ := new.runs steps fits [readout line]
  rw [Nat.zero_add] at counted
  obtain ⟨s', ⟨j, v, quoted, found, is, ordered, quotes, lines, calls⟩, ends⟩ :=
    counted.outside.next_tells (steps + 7) [] fun _ top records => counted.reads top records
  obtain ⟨text, explains, same, ids⟩ := quotes.explains ordered
  exact ⟨s', begins.trans (goesOn.trans ends), .object j, v, found, is, is.shows_number, text,
    explains, same.trans lines, (congrArg List.length ids).trans calls⟩

/-- After three increments there are fifteen lines. -/
theorem Counter.program_counts_three : ((3 : Nat) : Int) ≤ Text.maxInt64 ∧
    ∃ s' : Session, Because.runProgram (.within 7) (Counter.program (fun _ => .builtin) 3)
        (Session.start {} {}) = .done () s' ∧
      ∃ value why, s'.global? "total" = some ⟨value, why⟩ ∧ s'.render value = "3" ∧
        ∃ text, s'.explain why none = .ok text ∧
          (Text.linesWith Counter.called text).length = 15 ∧
          (Text.idsOn Counter.called text).length = 3 := by
  have fits : ((3 : Nat) : Int) ≤ Text.maxInt64 := by decide
  obtain ⟨s', done, value, why, found, -, shown, explained⟩ :=
    program_counts (fun _ => .builtin) fits {} 0
  exact ⟨fits, s', done, value, why, found, shown, explained⟩

end Because
