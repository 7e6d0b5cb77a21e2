import Because.Demo
import Because.Proofs.Outside
import Because.Proofs.Text.Split

/-!
# A program that collects words

One of the built-in programs splits a text at its spaces and goes through the parts. A dictionary
remembers the words that it has seen, and a list collects each word when it is seen for the first
time. Whatever the text is, the list holds the distinct parts in the end, in the order in which they
first occur.
-/

namespace Because

namespace Demo

/-- The dictionary gets the word. -/
def rememberWord : Stmt :=
  .effect (line 159) (.methodCall (line 159) (.get (line 159) "seen") "put"
    [.get (line 159) "word", .boolean (line 159) true])

/-- The list gets the word. -/
def keepWord : Stmt :=
  .effect (line 160) (.methodCall (line 160) (.get (line 160) "unique") "append"
    [.get (line 160) "word"])

/-- A pass for a word, which is collected unless it has been seen before. -/
def collectWord : Stmt :=
  .ifElse (line 157)
    (.not (line 157) (.methodCall (line 157) (.get (line 157) "seen") "containsKey"
      [.get (line 157) "word"]))
    [rememberWord, keepWord] []

/-- The program that prints the distinct words of a text, and how many they are. -/
def distinctWords (text : String) : Program :=
  [.declare (line 148) "words"
     (.methodCall (line 150) (.string (line 150) text) "split" [.string (line 150) " "]),
   .declare (line 152) "seen" (.new (line 152) "Dict" []),
   .declare (line 153) "unique" (.new (line 153) "List" []),
   .forEach (line 154) "word" (.get (line 156) "words") [collectWord],
   .print (line 164) (.concat (line 164)
     [.string (line 165) "unique words: ",
      .methodCall (line 166) (.get (line 166) "unique") "toString" []]),
   .printWithId (line 168) (.methodCall (line 168) (.get (line 168) "unique") "getLength" [])]

end Demo

namespace Session

variable {s now : Session} {steps : Nat} {loop seen unique : ScopeId} {pass : ReasonId}
  {visited left : List String} {x : String}

/-! ## Passes -/

/-- In a pass of the loop, the variables mean a word, the dictionary and the list. -/
structure Visiting (now : Session) (seen unique word : ScopeId) (x : String) : Prop where
  usable : now.Usable
  room : now.calls.isFull = false
  meansSeen : now.meaning? "seen" = some (.object seen)
  meansUnique : now.meaning? "unique" = some (.object unique)
  meansWord : now.meaning? "word" = some (.object word)
  isWord : Is (Handle.text x) (.object word) now

namespace Visiting

variable {word : ScopeId} {s' : Session} {restated : ScopeId → Prop}

/-- This goes on as long as only objects that are no texts get other states. -/
lemma later (h : now.Visiting seen unique word x) (healthy : s'.Healthy)
    (alters : now.Alters (fun _ _ => False) restated s') (same : now.SameStacks s')
    (spares : now.SparesKind restated .string) : s'.Visiting seen unique word x where
  usable := h.usable.after healthy alters fun _ => id
  room := same.calls ▸ h.room
  meansSeen := (h.usable.apt.meaning? alters same fun _ _ => id).trans h.meansSeen
  meansUnique := (h.usable.apt.meaning? alters same fun _ _ => id).trans h.meansUnique
  meansWord := (h.usable.apt.meaning? alters same fun _ _ => id).trans h.meansWord
  isWord := h.isWord.spared alters spares fun _ => rfl

/-- In a pass of the loop, the variable `word` gives the word. -/
lemma word_yields (h : now.Visiting seen unique word x) (steps : Nat) (loc : Location) :
    now.Yields (steps + 1) (.get loc "word") (Is (Handle.text x)) :=
  (h.usable.apt.variable_yields h.meansWord (stays_is _) h.isWord steps loc).mono fun _ _ => And.right

/-- The condition of a pass is whether the word has not been seen. -/
lemma asks (h : now.Visiting seen unique word x)
    (keys : DictOf (visited.eraseDups.map Key.text) (.object seen) now) (loc : Location) :
    now.Evaluates (steps + 4)
      (.not loc (.methodCall loc (.get loc "seen") "containsKey" [.get loc "word"]))
      (Is (Handle.truth (decide (x ∉ visited)))) := by
  have dict : now.Evaluates (steps + 2) (.get loc "seen") (DictOf (visited.eraseDups.map Key.text)) :=
    (h.usable.apt.variable_evaluates h.meansSeen (stays_dictOf _) keys (steps + 1) loc).mono
      fun _ _ => And.right
  have contains := h.usable.apt.containsKey_evaluates (h.usable.names .bool) h.room dict
    (h.word_yields (steps + 1) loc) (stays_is _) (fun _ _ => Is.asKey) loc
  have answers := h.usable.apt.not_evaluates (h.usable.names .bool) contains loc
  have same : (!decide (Key.text x ∈ visited.eraseDups.map Key.text)) = decide (x ∉ visited) := by
    simp [List.mem_eraseDups]
  rwa [same] at answers

/-- Nothing happens in a pass for a word that has been seen, and otherwise the dictionary and the
list get it. -/
lemma collects (h : now.Visiting seen unique word x) (recorded : Nat.lt pass now.graph.size)
    (keys : DictOf (visited.eraseDups.map Key.text) (.object seen) now)
    (items : ListOf Handle.text visited.eraseDups (.object unique) now) :
    ∃ s', runStatements (.within (steps + 5)) pass [Demo.collectWord] now = .done .normal s' ∧
      now.Alters (fun _ _ => False) (fun i => i = seen ∨ i = unique) s' ∧ now.Quiet s' ∧
      DictOf ((visited ++ [x]).eraseDups.map Key.text) (.object seen) s' ∧
      ListOf Handle.text (visited ++ [x]).eraseDups (.object unique) s' := by
  obtain ⟨w, s1, healthy1, adds, quiet1, recorded1, chooses⟩ :=
    h.usable.ifElse recorded (h.asks keys _ pass recorded) (Demo.line 157)
      [Demo.rememberWord, Demo.keepWord] []
  have runs : runStatements (.within (steps + 5)) pass [Demo.collectWord] now = _ :=
    (congrFun (runStatements_one (.within (steps + 5)) Demo.collectWord) now).trans chooses
  have visiting1 := h.later healthy1 adds.unaltered
    quiet1.toSameStacks fun _ => False.elim
  have keys1 := (stays_dictOf _).adds adds keys
  have items1 := (stays_listOf _ _).adds adds items
  rw [runs, eraseDups_concat]
  -- Whether the word has been seen is what the condition has been evaluated to.
  by_cases mem : x ∈ visited
  · rw [if_pos mem]
    refine ⟨s1, ?_, adds.alters _ _, quiet1, keys1, items1⟩
    simp only [mem, not_true_eq_false, decide_false, Bool.false_eq_true, if_false]
    rfl
  · rw [if_neg mem]
    obtain ⟨s2, puts, healthy2, alters2, quiet2, keys2⟩ := healthy1.effect recorded1 (Demo.line 159)
      (visiting1.usable.apt.put_restates visiting1.room visiting1.meansSeen keys1
        (visiting1.word_yields (steps + 1) (Demo.line 159))
        (visiting1.usable.apt.boolean_yields (visiting1.usable.names .bool) steps (Demo.line 159)
          true)
        (stays_is _) (fun _ _ => Is.asKey) (Demo.line 159) (Demo.line 159) recorded1)
    have items2 := items1.spared alters2 (keys1.spares (by decide)) (keys1.spares (by decide))
      fun _ _ => rfl
    -- The dictionary has changed, but neither a variable nor the list nor the word.
    have visiting2 := visiting1.later healthy2 alters2 quiet2.toSameStacks (keys1.spares (by decide))
    have recorded2 : Nat.lt w s2.graph.size := Nat.lt_of_lt_of_le recorded1 alters2.graph
    obtain ⟨s3, appends, healthy3, alters3, quiet3, items3⟩ :=
      healthy2.effect recorded2 (Demo.line 160)
        (visiting2.usable.apt.append_restates visiting2.room visiting2.meansUnique items2
          (fun _ _ => by rintro ⟨⟩) (visiting2.word_yields (steps + 1) (Demo.line 160))
          (Demo.line 160) (Demo.line 160) recorded2)
    have keys3 := keys2.spared alters3 (items2.spares (by decide))
    have added : (if Key.text x ∈ visited.eraseDups.map Key.text then visited.eraseDups.map Key.text
        else visited.eraseDups.map Key.text ++ [Key.text x]) =
          (visited.eraseDups ++ [x]).map Key.text := by
      simp [List.mem_eraseDups, mem]
    refine ⟨s3, ?_, ?_, (quiet1.trans quiet2).trans quiet3, added ▸ keys3, items3⟩
    · have first : (Inner.within (steps + 4)).exec Demo.rememberWord w s1 = .done .normal s2 :=
        puts
      have second : (Inner.within (steps + 4)).exec Demo.keepWord w s2 = .done .normal s3 :=
        appends
      simp only [mem, not_false_eq_true, decide_true, if_true]
      rw [runStatements, Action.bind_done first]
      dsimp only
      rw [runStatements, Action.bind_done second]
      rfl
    · have put : s1.Alters (fun _ _ => False) (fun i => i = seen ∨ i = unique) s2 :=
        alters2.widen (fun _ _ _ => id) fun _ _ => .inl
      have kept : s2.Alters (fun _ _ => False) (fun i => i = seen ∨ i = unique) s3 :=
        alters3.widen (fun _ _ _ => id) fun _ _ => .inr
      exact ((adds.alters _ _).trans put).trans kept

end Visiting

/-! ## The loop -/

/-- Between two passes of the loop, some words have been visited and others are left. The distinct
ones that have been visited are the keys of the dictionary and the items of the list. -/
structure Collecting (s : Session) (loop seen unique : ScopeId) (visited left : List String)
    (waiting : List Justified) (now : Session) : Prop where
  names : ∀ builtin, now.Names builtin
  room : now.calls.isFull = false
  meansSeen : now.meaning? "seen" = some (.object seen)
  meansUnique : now.meaning? "unique" = some (.object unique)
  keys : DictOf (visited.eraseDups.map Key.text) (.object seen) now
  items : ListOf Handle.text visited.eraseDups (.object unique) now
  words : List.Forall₂ (fun info x => Is (Handle.text x) info.value now) waiting left
  alters : s.Alters (fun _ _ => False) (fun i => i = seen ∨ i = unique) now
  console : now.console = s.console
  new : s.scopes.size ≤ loop

/-- A pass collects the next word. -/
lemma Collecting.next {item : Justified} {rest : List Justified} {s1 : Session}
    {description : String}
    (h : s.Collecting loop seen unique visited (x :: left) (item :: rest) now)
    (healthy : now.Healthy) (current : now.currentScope = loop) (below : loop ≠ globalScope)
    (healthy1 : s1.Healthy)
    (alters : now.Alters (fun i other => i = loop ∧ other = "word") (fun _ => False) s1)
    (quiet : now.Quiet s1) (found : s1.scopes.local? loop "word" = some ⟨item.value, pass⟩)
    (recorded : Nat.lt pass s1.graph.size) :
    ∃ s', runStatements (.within (steps + 5)) pass [Demo.collectWord] (s1.inBlock description) =
        .done .normal s' ∧
      s.Collecting loop seen unique (visited ++ [x]) left rest s'.leave := by
  obtain ⟨isWord, others⟩ := List.forall₂_cons.1 h.words
  obtain ⟨word, value⟩ := isWord.object
  rw [value] at isWord found
  have elsewhere (builtin : Builtin) : ¬ (globalScope = loop ∧ builtin.name = "word") :=
    fun here => below here.1.symm
  have usable1 := Usable.after ⟨healthy, h.names⟩ healthy1 alters elsewhere
  have adds := s1.inBlock_adds description
  have means (name : String) := healthy1.inOrder.inBlock_meaning? description name
  have variable_ (name : String) (other : name ≠ "word") : s1.meaning? name = now.meaning? name :=
    healthy.apt.meaning? alters quiet.toSameStacks fun _ _ same => other same.2
  -- The body runs in a block below the scope of the loop; there only `word` has another meaning
  -- than before the pass.
  have visiting : (s1.inBlock description).Visiting seen unique word x := {
    usable := usable1.after (healthy1.inBlock description)
      adds.unaltered fun _ => id
    room := (congrArg CallStack.isFull quiet.calls).trans h.room
    meansSeen := ((means "seen").trans (variable_ "seen" (by decide))).trans h.meansSeen
    meansUnique := ((means "unique").trans (variable_ "unique" (by decide))).trans h.meansUnique
    meansWord := (means "word").trans (meaning_of_local
      ((congrArg (s1.scopes.local? · "word")
        (quiet.toSameStacks.currentScope.trans current)).trans found))
    isWord := (stays_is _).adds adds (stays_is _ alters isWord) }
  obtain ⟨s', runs, alters', quiet', keys', items'⟩ := visiting.collects recorded
    ((stays_dictOf _).adds adds (stays_dictOf _ alters h.keys))
    ((stays_listOf _ _).adds adds (stays_listOf _ _ alters h.items))
  have leaves : s'.Adds s'.leave := { Adds.refl s' with }
  have all : now.Alters (fun i other => i = loop ∧ other = "word")
      (fun i => i = seen ∨ i = unique) s'.leave :=
    (((alters.widen (fun _ _ _ => id) fun _ _ => False.elim).trans (adds.alters _ _)).trans
      (alters'.widen (fun _ _ _ => False.elim) fun _ _ => id)).trans (leaves.alters _ _)
  -- When the block has been left, the session is back in the scope of the loop.
  have balanced : now.SameStacks s'.leave :=
    ⟨(congrArg List.tail quiet'.entered).trans quiet.entered, quiet'.calls.trans quiet.calls⟩
  have kept (name : String) (other : name ≠ "word") : s'.leave.meaning? name = now.meaning? name :=
    healthy.apt.meaning? all balanced fun _ _ same => other same.2
  have spares : now.SparesKind (fun i => i = seen ∨ i = unique) .string :=
    (h.keys.spares (by decide)).or (h.items.spares (by decide))
  exact ⟨s', runs, {
    names := fun builtin => all.names healthy.works (elsewhere builtin) (h.names builtin)
    room := (congrArg CallStack.isFull balanced.calls).trans h.room
    meansSeen := (kept "seen" (by decide)).trans h.meansSeen
    meansUnique := (kept "unique" (by decide)).trans h.meansUnique
    keys := (stays_dictOf _).adds leaves keys'
    items := (stays_listOf _ _).adds leaves items'
    words := others.imp fun _ _ is => is.spared all spares fun _ => rfl
    alters := ((h.alters.widen (fun _ _ _ => False.elim) fun _ _ => id).trans all).widen
      (fun _ _ lt wrote => absurd (Nat.lt_of_lt_of_le lt h.new) (Nat.not_lt_of_le (Nat.le_of_eq
        wrote.1.symm))) fun _ _ => id
    console := (quiet'.console.trans quiet.console).trans h.console
    new := h.new }⟩

/-- When the loop begins, no word has been visited. -/
lemma Usable.collecting {words : List String} {waiting : List Justified} {description : String}
    (h : s.Usable) (room : s.calls.isFull = false)
    (meansSeen : s.meaning? "seen" = some (.object seen))
    (meansUnique : s.meaning? "unique" = some (.object unique))
    (keys : DictOf [] (.object seen) s)
    (items : ListOf Handle.text ([] : List String) (.object unique) s)
    (adds : (s.inBlock description).Adds now) (quiet : (s.inBlock description).Quiet now)
    (are : List.Forall₂ (fun info x => Is (Handle.text x) info.value now) waiting words) :
    s.Collecting s.scopes.size seen unique [] words waiting
      (now.beginLoop s.scopes.size "word") := by
  have begins := now.beginLoop_alters s.scopes.size "word"
  have within := (adds.alters _ _).trans begins
  have all := ((s.inBlock_adds description).alters _ _).trans within
  have inside : (s.inBlock description).SameStacks (now.beginLoop s.scopes.size "word") :=
    ⟨quiet.entered, quiet.calls⟩
  have kept (name : String) (other : name ≠ "word") :
      (now.beginLoop s.scopes.size "word").meaning? name = s.meaning? name :=
    ((h.inBlock description).apt.meaning? within inside fun _ _ same => other same.2).trans
      (h.inOrder.inBlock_meaning? description name)
  have below : s.scopes.size ≠ globalScope := Nat.ne_of_gt h.works.made
  exact {
    names := fun builtin => all.names h.works (fun here => below here.1.symm) (h.names builtin)
    room := (congrArg CallStack.isFull quiet.calls).trans room
    meansSeen := (kept "seen" (by decide)).trans meansSeen
    meansUnique := (kept "unique" (by decide)).trans meansUnique
    keys := stays_dictOf _ all keys
    items := stays_listOf _ _ all items
    words := are.imp fun _ _ is => stays_is _ begins is
    alters := all.widen (fun _ _ lt wrote => absurd wrote.1 (Nat.ne_of_lt lt)) fun _ _ => False.elim
    console := quiet.console
    new := Nat.le_refl _ }

/-- The loop collects the distinct words of a list. -/
lemma Usable.collectWords {words : List String} {list : ScopeId} {why : ReasonId} (h : s.Usable)
    (room : s.calls.isFull = false) (recorded : Nat.lt why s.graph.size)
    (meansSeen : s.meaning? "seen" = some (.object seen))
    (meansUnique : s.meaning? "unique" = some (.object unique))
    (meansWords : s.meaning? "words" = some (.object list))
    (keys : DictOf [] (.object seen) s)
    (items : ListOf Handle.text ([] : List String) (.object unique) s)
    (isList : ListOf Handle.text words (.object list) s) (loc loc' : Location) :
    ∃ s', Because.exec (steps + 6)
        (.forEach loc "word" (.get loc' "words") [Demo.collectWord]) why s = .done .normal s' ∧
      s'.Usable ∧ s.Alters (fun _ _ => False) (fun i => i = seen ∨ i = unique) s' ∧ s.Quiet s' ∧
      ListOf Handle.text words.eraseDups (.object unique) s' := by
  let word := "word"
  let block := s.inBlock s!"for loop of {word}"
  have opens : s.Adds block := s.inBlock_adds _
  have meansList : block.meaning? "words" = some (.object list) :=
    (h.inOrder.inBlock_meaning? _ "words").trans meansWords
  have evaluates := (h.inBlock s!"for loop of {word}").apt.variable_evaluates meansList
    (stays_listOf _ _) ((stays_listOf _ _).adds opens isList) (steps + 4) loc' why recorded
  -- The words that are visited first come first in the list.
  let I (waiting : List Justified) (now : Session) : Prop := ∃ visited left,
    words = visited ++ left ∧ s.Collecting s.scopes.size seen unique visited left waiting now
  have begins {i : ScopeId} {now : Session} (adds : block.Adds now) (quiet : block.Quiet now)
      (given : Value.object i = .object list ∧ ListOf Handle.text words (.object i) now) :
      ∃ handle items, now.handle? (.object i) = some handle ∧ handle.items? = some items ∧
        I items (now.beginLoop s.scopes.size "word") := by
    obtain ⟨-, waiting, found, -, -, are⟩ := given
    exact ⟨.list waiting, waiting, found, rfl, [], words, rfl,
      h.collecting room meansSeen meansUnique keys items adds quiet are⟩
  have passes {item : Justified} {rest : List Justified} {now s1 : Session} {pass : ReasonId}
      {description : String} (healthy : now.Healthy) (current : now.currentScope = s.scopes.size)
      (before : I (item :: rest) now) (healthy1 : s1.Healthy)
      (alters : now.Alters (fun i other => i = s.scopes.size ∧ other = "word") (fun _ => False) s1)
      (quiet : now.Quiet s1)
      (found : s1.scopes.local? s.scopes.size "word" = some ⟨item.value, pass⟩)
      (recorded : Nat.lt pass s1.graph.size) :
      ∃ s', runStatements (.within (steps + 5)) pass [Demo.collectWord] (s1.inBlock description) =
        .done .normal s' ∧ I rest s'.leave := by
    obtain ⟨visited, left, split, collecting⟩ := before
    obtain ⟨x, others, -, -, rfl⟩ := List.forall₂_cons_left_iff.1 collecting.words
    obtain ⟨s', runs, next⟩ := collecting.next healthy current (Nat.ne_of_gt h.works.made) healthy1
      alters quiet found recorded
    refine ⟨s', runs, visited ++ [x], others, ?_, next⟩
    rw [split, List.append_assoc]
    rfl
  obtain ⟨last, runs, healthy, balanced, visited, left, split, collecting⟩ :=
    h.toHealthy.forEach recorded evaluates (fun adds quiet given _ => begins adds quiet given)
      passes loc
  obtain rfl : left = [] := by
    cases collecting.words
    rfl
  rw [List.append_nil] at split
  have leaves : last.Adds last.leave := { Adds.refl last with }
  have alters := collecting.alters.trans (leaves.alters _ _)
  refine ⟨last.leave, runs, h.after healthy alters fun _ => id, alters,
    ⟨balanced, collecting.console⟩, ?_⟩
  rw [split]
  exact (stays_listOf _ _).adds leaves collecting.items

/-! ## The program -/

/-- There are a dictionary and a list, which hold nothing yet, and the words of a text. -/
structure Prepared (s : Session) (words : List String) (seen unique list : ScopeId) : Prop where
  meansWords : s.meaning? "words" = some (.object list)
  isList : ListOf Handle.text words (.object list) s
  meansSeen : s.meaning? "seen" = some (.object seen)
  keys : DictOf [] (.object seen) s
  meansUnique : s.meaning? "unique" = some (.object unique)
  items : ListOf Handle.text ([] : List String) (.object unique) s

/-- The list has got these words. -/
structure Collected (s : Session) (words : List String) (unique : ScopeId) : Prop where
  means : s.meaning? "unique" = some (.object unique)
  items : ListOf Handle.text words (.object unique) s

variable {config : Config} {words : List String} {console console' : Console} {taken : List String}

/-- What has been prepared stays so while only reasons and objects are made. -/
lemma Prepared.later {list : ScopeId} (h : s.Prepared words seen unique list)
    (top : s.Outside config taken console) (top' : now.Outside config taken console)
    (adds : s.Adds now) :
    now.Prepared words seen unique list := by
  have alters : s.Alters (globals []) (fun _ => False) now := adds.alters _ _
  exact {
    meansWords := top.meaning? alters top' List.not_mem_nil h.meansWords
    isList := stays_listOf _ _ alters h.isList
    meansSeen := top.meaning? alters top' List.not_mem_nil h.meansSeen
    keys := stays_dictOf _ alters h.keys
    meansUnique := top.meaning? alters top' List.not_mem_nil h.meansUnique
    items := stays_listOf _ _ alters h.items }

/-- What has been collected stays so while only reasons and objects are made. -/
lemma Collected.later (h : s.Collected words unique) (top : s.Outside config taken console)
    (top' : now.Outside config taken console') (adds : s.Adds now) :
    now.Collected words unique where
  means := top.meaning? (adds.alters (globals []) fun _ => False) top' List.not_mem_nil h.means
  items := (stays_listOf _ _).adds adds h.items

namespace Outside

/-- The program splits the text, and makes what will hold its words. -/
lemma prepares (h : s.Outside config taken console) (room : s.calls.isFull = false)
    (newWords : "words" ∉ taken) (newSeen : "seen" ∉ taken) (newUnique : "unique" ∉ taken)
    (steps : Nat) (text : String) :
    ∃ s' seen unique list, s'.Outside config ("unique" :: "seen" :: "words" :: taken) console ∧
      s'.Prepared (Text.split " " text) seen unique list ∧
      Because.runProgram (.within (steps + 4)) (Demo.distinctWords text) s =
        Because.runProgram (.within (steps + 4)) ((Demo.distinctWords text).drop 3) s' := by
  obtain ⟨list, s1, top1, -, means1, isList1, run1⟩ :=
    h.declares (steps + 3) newWords (stays_listOf Handle.text (Text.split " " text))
      (fun now top _ => top.apt.split_evaluates (top.names .string) (top.names .list)
        (h.same_calls top ▸ room)
        (top.works.string_evaluates (top.names .string) steps (Demo.line 150) text)
        (top.apt.string_yields (top.names .string) steps (Demo.line 150) " ") (Demo.line 150))
      (Demo.line 148) ((Demo.distinctWords text).drop 1)
  obtain ⟨seen, s2, top2, alters2, means2, keys2, run2⟩ :=
    top1.declares (steps + 3) (List.not_mem_cons_of_ne_of_not_mem (by decide) newSeen)
      (stays_dictOf [])
      (fun now top _ => top.apt.newDict_evaluates (top.names .dict) (steps + 2) (Demo.line 152))
      (Demo.line 152) ((Demo.distinctWords text).drop 2)
  obtain ⟨unique, s3, top3, alters3, means3, items3, run3⟩ :=
    top2.declares (steps + 3)
      (List.not_mem_cons_of_ne_of_not_mem (by decide)
        (List.not_mem_cons_of_ne_of_not_mem (by decide) newUnique))
      (stays_listOf Handle.text ([] : List String))
      (fun now top _ => top.apt.newList_evaluates (top.names .list) Handle.text (steps + 2)
        (Demo.line 153))
      (Demo.line 153) ((Demo.distinctWords text).drop 3)
  refine ⟨s3, seen, unique, list, top3, {
    meansWords := top2.meaning? alters3 top3 (by decide)
      (top1.meaning? alters2 top2 (by decide) means1)
    isList := stays_listOf _ _ alters3 (stays_listOf _ _ alters2 isList1)
    meansSeen := top2.meaning? alters3 top3 (by decide) means2
    keys := stays_dictOf _ alters3 keys2
    meansUnique := means3
    items := items3 }, (run1.trans run2).trans run3⟩

/-- The loop changes only the dictionary and the list, which gets the words. -/
lemma collects {list : ScopeId} (h : s.Outside config taken console)
    (prepared : s.Prepared words seen unique list) (room : s.calls.isFull = false) (steps : Nat)
    (text : String) :
    ∃ s', (s'.Outside config taken console ∧ s'.Collected words.eraseDups unique) ∧
      Because.runProgram (.within (steps + 7)) ((Demo.distinctWords text).drop 3) s =
        Because.runProgram (.within (steps + 7)) ((Demo.distinctWords text).drop 4) s' :=
  h.next (steps + 7) ((Demo.distinctWords text).drop 4) fun now why top notes recorded => by
    have before := prepared.later h top (.of_notes notes)
    obtain ⟨s', done, usable, alters, quiet, items⟩ := top.toUsable.collectWords
      (h.same_calls top ▸ room) recorded before.meansSeen before.meansUnique before.meansWords
      before.keys before.items before.isList (Demo.line 154) (Demo.line 156)
    have nothing : now.Alters (globals []) (fun i => i = seen ∨ i = unique) s' :=
      alters.widen (fun _ _ _ => False.elim) fun _ _ => id
    have outside : s'.Outside config taken console := top.after usable.toHealthy nothing
      (fun _ => And.right) (List.forall_mem_nil _) quiet.toSameStacks
      (quiet.console.trans top.shows)
    exact ⟨s', done, outside, top.meaning? nothing outside List.not_mem_nil before.meansUnique,
      items⟩

/-- The first line that is printed shows the words. -/
lemma printsWords (h : s.Outside config taken console) (collected : s.Collected words unique)
    (room : s.calls.isFull = false) (deeper : ∀ frame, (s.calls.enter frame).isFull = false)
    (steps : Nat) (text : String) :
    let listed := ", ".intercalate words
    ∃ s', (s'.Outside config taken (console.printLine s!"unique words: [{listed}]") ∧
        s'.Collected words unique) ∧
      Because.runProgram (.within (steps + 7)) ((Demo.distinctWords text).drop 4) s =
        Because.runProgram (.within (steps + 7)) ((Demo.distinctWords text).drop 5) s' := by
  intro listed
  refine h.next (steps + 7) ((Demo.distinctWords text).drop 5) fun now why top notes recorded => ?_
  have before := collected.later h top (.of_notes notes)
  have yields : now.Yields (steps + 5)
      (.methodCall (Demo.line 166) (.get (Demo.line 166) "unique") "toString" [])
      (Is (Handle.text ("[" ++ listed ++ "]"))) := by
    intro t more quiet
    have list := ((top.apt.variable_yields before.means (stays_listOf _ _) before.items (steps + 3)
      (Demo.line 166)) more quiet).mono fun _ _ => And.right
    have same : t.calls = s.calls := quiet.calls.trans (h.same_calls top)
    exact (top.apt.after more quiet.toSameStacks).listText_evaluates
      (more.names top.works (top.names .string)) (same ▸ room) (same ▸ deeper) list _
  obtain ⟨i, w, t, given⟩ := top.apt.concat_evaluates (top.names .string)
    (h.same_calls top ▸ room)
    (top.apt.string_yields (top.names .string) (steps + 3) (Demo.line 165) "unique words: ") yields
    (Demo.line 164) why recorded
  obtain ⟨s', done, outside, adds⟩ := top.print recorded given (Demo.line 164)
  have line : "unique words: " ++ ("[" ++ listed ++ "]") = s!"unique words: [{listed}]" := by
    simp only [toString, ← String.append_assoc]
    rfl
  rw [line] at outside
  exact ⟨s', done, outside, before.later top outside (given.adds.trans adds)⟩

/-- The second line that is printed shows how many words there are. -/
lemma printsCount (h : s.Outside config taken console) (collected : s.Collected words unique)
    (room : s.calls.isFull = false) (steps : Nat) (text : String) :
    ∃ s', (∃ id : ReasonId, Nat.lt id s'.graph.size ∧
        s'.console = console.printLine s!"- (#{id}) {words.length}") ∧
      Because.runProgram (.within (steps + 7)) ((Demo.distinctWords text).drop 5) s =
        .done () s' := by
  refine h.next (steps + 7) [] fun now why top notes recorded => ?_
  have before := collected.later h top (.of_notes notes)
  have list : now.Evaluates (steps + 4) (.get (Demo.line 168) "unique")
      (ListOf Handle.text words) :=
    (top.apt.variable_evaluates before.means (stays_listOf _ _) before.items (steps + 3)
      (Demo.line 168)).mono fun _ _ => And.right
  have length := top.apt.length_evaluates (top.names .num) (h.same_calls top ▸ room) list
    (Demo.line 168)
  obtain ⟨i, w, t, given⟩ := top.withId_evaluates (top.names .string) length
    (fun _ _ => Is.shows_number) (Demo.line 168) why recorded
  obtain ⟨id, known, is⟩ := given.holds
  obtain ⟨s', done, outside, adds⟩ := top.print recorded { given with holds := is } (Demo.line 168)
  exact ⟨s', done, id, Nat.lt_of_lt_of_le known adds.graph, outside.shows⟩

/-- The program collects the words, and prints them and how many they are. -/
lemma prints {words : List String} {list : ScopeId} (h : s.Outside config taken console)
    (prepared : s.Prepared words seen unique list) (room : s.calls.isFull = false)
    (deeper : ∀ frame, (s.calls.enter frame).isFull = false) (steps : Nat) (text : String) :
    let listed := ", ".intercalate words.eraseDups
    ∃ s', ∃ id : ReasonId, Nat.lt id s'.graph.size ∧
      s'.console = (console.printLine s!"unique words: [{listed}]").printLine
        s!"- (#{id}) {words.eraseDups.length}" ∧
      Because.runProgram (.within (steps + 7)) ((Demo.distinctWords text).drop 3) s =
        .done () s' := by
  intro listed
  obtain ⟨s1, ⟨top1, collected1⟩, run1⟩ := h.collects prepared room steps text
  have same1 := h.same_calls top1
  obtain ⟨s2, ⟨top2, collected2⟩, run2⟩ :=
    top1.printsWords collected1 (same1 ▸ room) (same1 ▸ deeper) steps text
  obtain ⟨s', ⟨id, recorded, shows⟩, run3⟩ :=
    top2.printsCount collected2 (h.same_calls top2 ▸ room) steps text
  exact ⟨s', id, recorded, shows, (run1.trans run2).trans run3⟩

end Outside

end Session

/-- Put in place of the text of the built-in program, any text is split at its spaces. The program
prints the distinct parts in the order in which they first occur, and how many they are, after the
number of a reason. -/
theorem Demo.distinctWords_prints (steps : Nat) (text : String) (console : Console) :
    Demo.lists = Demo.distinctWords "to be or not to be" ∧
      ∃ parts, Text.Parts " " text parts ∧ ∃ (s' : Session) (id : ReasonId),
        let listed := ", ".intercalate parts.eraseDups
        Because.runProgram (.within (steps + 7)) (Demo.distinctWords text)
            (Session.start {} console) = .done () s' ∧
          Nat.lt id s'.graph.size ∧
          s'.console = (console.printLine s!"unique words: [{listed}]").printLine
            s!"- (#{id}) {parts.eraseDups.length}" := by
  refine ⟨rfl, _, Text.split_parts " " text, ?_⟩
  have room : (Session.start {} console).calls.isFull = false := by
    rw [Session.start_calls]
    rfl
  have outset := Session.start_outside {} console
  obtain ⟨s1, seen, unique, list, top, prepared, begins⟩ :=
    outset.prepares room (by decide) (by decide) (by decide) (steps + 3) text
  have calls : s1.calls = { limit := some 2000 } := top.calls
  have room1 : s1.calls.isFull = false := by
    rw [calls]
    rfl
  have deeper (frame : Frame) : (s1.calls.enter frame).isFull = false := by
    rw [calls]
    rfl
  obtain ⟨s', id, recorded, shows, ends⟩ := top.prints prepared room1 deeper steps text
  exact ⟨s', id, begins.trans ends, recorded, shows⟩

end Because
