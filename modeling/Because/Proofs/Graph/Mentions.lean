import Mathlib.Data.List.Infix
import Because.Proofs.Graph.Reading

/-!
# What the lines of an explanation mention

A reason that many others rest on stands in an explanation wherever it is met, with all that it
rests on below it each time. On how many lines a text stands, and behind which numbers, comes out
of the children alone: below a reason it stands where it does below its children, one after the
other, and one more time if the reason has it in its own description.
-/

namespace Because

namespace Text

/-- Whether a text stands on a line. -/
def mentions (needle line : String) : Bool := decide (needle.toList <:+: line.toList)

/-- The lines of a text on which another one stands. -/
def linesWith (needle text : String) : List String := (lines text).filter (mentions needle)

/-- What follows the first place at which some characters stand. -/
def behind? (start : List Char) : List Char → Option (List Char)
  | [] => none
  | c :: rest =>
    if start.isPrefixOf (c :: rest) then some ((c :: rest).drop start.length)
    else behind? start rest

/-- The number in the first parentheses of a line that open with `#`. -/
def quotedId? (line : String) : Option ReasonId :=
  (behind? ['(', '#'] line.toList).bind fun rest =>
    if ')' ∈ rest then readDigits? (rest.takeWhile (· ≠ ')')) else none

/-- The different numbers that are quoted on the lines on which a text stands. -/
def idsOn (needle text : String) : List ReasonId :=
  ((linesWith needle text).filterMap quotedId?).eraseDups

end Text

/-! ## Texts on lines -/

section

variable {needle start chars rest : List Char} {c : Char}

/-- Characters stand behind others that do not hold the first one if they do so without these. -/
lemma infix_append_of_head (first : needle.head? = some c) (new : c ∉ start) :
    needle <:+: start ++ chars ↔ needle <:+: chars := by
  obtain ⟨rest, rfl⟩ := List.head?_eq_some_iff.1 first
  induction start with
  | nil => rfl
  | cons d start ih =>
    obtain ⟨ne, others⟩ := not_or.1 (List.mem_cons.not.1 new)
    rw [List.cons_append, List.infix_cons_iff, List.cons_prefix_cons, ih others]
    exact or_iff_right fun same => ne same.1

/-- Characters stand before others that do not hold the last one if they do so without these. -/
lemma infix_append_of_last (last : needle.getLast? = some c) (new : c ∉ rest) :
    needle <:+: chars ++ rest ↔ needle <:+: chars := by
  rw [← List.reverse_infix, List.reverse_append,
    infix_append_of_head (List.head?_reverse.trans last) (mt List.mem_reverse.1 new),
    List.reverse_infix]

/-- Where the first character of a text does not stand, the text does not stand either. -/
lemma not_infix_of_head (first : needle.head? = some c) (new : c ∉ chars) : ¬ needle <:+: chars :=
  fun stands => new (stands.subset (List.mem_of_mem_head? first))

/-- What comes before the opening character need not be searched. -/
lemma behind?_skip (new : c ∉ start) (chars : List Char) :
    Text.behind? (c :: rest) (start ++ chars) = Text.behind? (c :: rest) chars := by
  induction start with
  | nil => rfl
  | cons d start ih =>
    obtain ⟨ne, others⟩ := not_or.1 (List.mem_cons.not.1 new)
    have other : (c :: rest).isPrefixOf (d :: (start ++ chars)) = false := by
      simp [List.isPrefixOf, ne]
    rw [List.cons_append, Text.behind?, other, if_neg Bool.false_ne_true, ih others]

end

/-- What stands before descriptions on the lines of an explanation, but for numbers. -/
def frame : List Char := "|- (#) [line]: Called True".toList

/-- A text that stands nowhere in an explanation but in descriptions: neither does what stands
before a description hold its first character, nor what may stand behind it the last one. -/
structure Apart (needle : String) : Prop where
  first : ∃ c, needle.toList.head? = some c ∧ c ∉ frame ∧ c.isDigit = false
  last : ∃ c, needle.toList.getLast? = some c ∧ c ∉ " because".toList

section

variable {needle : String} {line : String} {before after : List Char}

namespace Apart

variable (h : Apart needle)

include h

/-- Characters of the frame before a description do not matter. -/
lemma skip (framed : before ⊆ frame) :
    needle.toList <:+: before ++ after ↔ needle.toList <:+: after := by
  obtain ⟨c, first, other, -⟩ := h.first
  exact infix_append_of_head first fun mem => other (framed mem)

/-- Digits before a description do not matter. -/
lemma skipDigits (n : Nat) :
    needle.toList <:+: Nat.toDigits 10 n ++ after ↔ needle.toList <:+: after := by
  obtain ⟨c, first, -, other⟩ := h.first
  refine infix_append_of_head first fun mem => ?_
  rw [Nat.isDigit_of_mem_toDigits (by decide) (by decide) mem] at other
  cases other

/-- The word that follows a description does not matter. -/
lemma because (chars : List Char) :
    needle.toList <:+: chars ++ " because".toList ↔ needle.toList <:+: chars := by
  obtain ⟨c, last, other⟩ := h.last
  exact infix_append_of_last last other

/-- What stands before a line, out of characters of the frame, does not matter. -/
lemma mentions_skip {start : String} (framed : start.toList ⊆ frame) (line : String) :
    Text.mentions needle (start ++ line) = Text.mentions needle line := by
  rw [Text.mentions, Text.mentions, String.toList_append, decide_eq_decide]
  exact h.skip framed

/-- The mark of a reason does not matter. -/
lemma mentions_marked (node : Node) (text : String) :
    Text.mentions needle (node.mark ++ text) = Text.mentions needle text := by
  rw [Text.mentions, Text.mentions, String.toList_append, decide_eq_decide, node.mark_toList,
    List.append_assoc, h.skip (by decide), List.append_assoc, h.skipDigits, h.skip (by decide)]

/-- What a line says before its children does not matter. -/
lemma mentions_because (text : String) :
    Text.mentions needle (text ++ " because") = Text.mentions needle text := by
  rw [Text.mentions, Text.mentions, String.toList_append, decide_eq_decide]
  exact h.because text.toList

/-- The text stands on no line that is made of the frame alone. -/
lemma not_framed {start : String} (framed : start.toList ⊆ frame) :
    Text.mentions needle (start ++ " because") = false := by
  obtain ⟨c, first, other, -⟩ := h.first
  rw [h.mentions_because, Text.mentions, decide_eq_false_iff_not]
  exact not_infix_of_head first fun mem => other (framed mem)

end Apart

/-- What stands before a line does not matter, if it opens no parentheses. -/
lemma quotedId?_skip {start : String} (new : '(' ∉ start.toList) (line : String) :
    Text.quotedId? (start ++ line) = Text.quotedId? line := by
  rw [Text.quotedId?, Text.quotedId?, String.toList_append]
  exact congrArg (Option.bind · _) (behind?_skip new _)

/-- The mark of a reason quotes its number. -/
lemma quotedId?_marked (node : Node) (text : String) :
    Text.quotedId? (node.mark ++ text) = some node.id := by
  let behind := Nat.toDigits 10 node.id ++ (')' :: ' ' :: text.toList)
  have start : (node.mark ++ text).toList = ['-', ' '] ++ '(' :: '#' :: behind := by
    rw [String.toList_append, node.mark_toList]
    simp [behind]
  have digits : ∀ c ∈ Nat.toDigits 10 node.id, decide (c ≠ ')') = true := by
    intro c mem
    have digit := Nat.isDigit_of_mem_toDigits (by decide) (by decide) mem
    refine decide_eq_true ?_
    rintro rfl
    cases digit
  have found : Text.behind? ['(', '#'] (node.mark ++ text).toList = some behind := by
    rw [start, behind?_skip (by decide)]
    simp [Text.behind?, List.isPrefixOf]
  have ends : behind.takeWhile (· ≠ ')') = Nat.toDigits 10 node.id := by
    rw [List.takeWhile_append_of_pos digits]
    exact List.append_nil _
  rw [Text.quotedId?, found, Option.bind_some, if_pos (by simp [behind]), ends,
    Text.readDigits?_toDigits]

/-! ## Lines -/

/-- What the lines quote on which a text stands. -/
def quotes (needle : String) (lines : List String) : List (Option ReasonId) :=
  (lines.filter (Text.mentions needle)).map Text.quotedId?

/-- Several lines quote what one part quotes and then what the other does. -/
lemma quotes_append (lines others : List String) :
    quotes needle (lines ++ others) = quotes needle lines ++ quotes needle others := by
  rw [quotes, List.filter_append, List.map_append, ← quotes, ← quotes]

/-- A line quotes its number if the text stands on it. -/
lemma quotes_cons (line : String) (lines : List String) :
    quotes needle (line :: lines) =
      (if Text.mentions needle line then [Text.quotedId? line] else []) ++ quotes needle lines := by
  rw [quotes, List.filter_cons]
  split <;> rfl

namespace Apart

variable (h : Apart needle)

include h

/-- Indentation changes nothing about what lines quote. -/
lemma quotes_indented (lines : List String) :
    quotes needle (lines.map indented) = quotes needle lines := by
  induction lines with
  | nil => rfl
  | cons line lines ih =>
    have same : Text.mentions needle (indented line) = Text.mentions needle line :=
      h.mentions_skip (by decide) line
    have quoted : Text.quotedId? (indented line) = Text.quotedId? line :=
      quotedId?_skip (by decide) line
    rw [List.map_cons, quotes_cons, quotes_cons, same, quoted, ih]

/-- How a child is introduced does not matter. -/
lemma quotes_block (label : Label) (lines : List String) :
    quotes needle (label.block lines) = quotes needle lines := by
  have framed (start : String) (framed : start.toList ⊆ frame) :
      Text.mentions needle (opening (start ++ " because")) = false :=
    (h.mentions_skip (by decide) _).trans (h.not_framed framed)
  cases label with
  | because =>
    cases lines with
    | nil => rfl
    | cons line lines =>
      have same : Text.mentions needle (opening line) = Text.mentions needle line :=
        h.mentions_skip (by decide) line
      have quoted : Text.quotedId? (opening line) = Text.quotedId? line :=
        quotedId?_skip (by decide) line
      rw [Label.block, quotes_cons, quotes_cons, same, quoted, h.quotes_indented]
  | called =>
    have no : Text.mentions needle (opening "Called because") = false :=
      framed "Called" (by decide)
    rw [Label.block, quotes_cons, no, h.quotes_indented]
    rfl
  | holds =>
    have no : Text.mentions needle (opening "True because") = false := framed "True" (by decide)
    rw [Label.block, quotes_cons, no, h.quotes_indented]
    rfl

/-- Blocks quote what each of them quotes, one after the other. -/
lemma quotes_joinBlocks (blocks : List (List String)) :
    quotes needle (joinBlocks blocks) = blocks.flatMap (quotes needle) := by
  induction blocks with
  | nil => rfl
  | cons block rest ih =>
    cases rest with
    | nil => simp [joinBlocks]
    | cons next rest =>
      obtain ⟨c, first, -⟩ := h.first
      have no : Text.mentions needle (indented "") = false := by
        refine (h.mentions_skip (by decide) "").trans ?_
        rw [Text.mentions, decide_eq_false_iff_not]
        exact not_infix_of_head first List.not_mem_nil
      rw [joinBlocks_cons_cons, quotes_append, quotes_cons, no, ih, List.flatMap_cons]
      rfl

end Apart

end

/-! ## Reasons -/

/-- What the description of a reason says, wherever the reason comes from. -/
def Kind.wording : Kind → String
  | .text message => message
  | .unknown => "Idk."
  | .conj description => description
  | .equal item value => s!"{item} equals \"{value}\""
  | .full name value _ _ => s!"{Node.variableText name} = {value}"

/-- A description is what it says, with the place of the reason before it or without. -/
lemma Node.describe_wording (node : Node) :
    node.describe = node.kind.wording ∨ node.describe = node.place ++ node.kind.wording := by
  obtain ⟨id, kind, supporters, shown, location⟩ := node
  cases kind with
  | text | unknown | equal => exact .inl rfl
  | conj => exact .inr rfl
  | full name value =>
    refine .inr ?_
    simp only [Node.describe, Kind.wording, toString, String.append_assoc]

/-- Places are empty, or made of the frame and of a number. -/
lemma Node.place_toList (node : Node) : node.place.toList = [] ∨
    ∃ n, node.place.toList = "[line ".toList ++ (Nat.toDigits 10 n ++ "]: ".toList) := by
  rw [Node.place]
  cases node.location with
  | none => exact .inl rfl
  | some loc =>
    dsimp only
    split
    · exact .inl rfl
    · rename_i other
      refine .inr ⟨loc.line, ?_⟩
      rw [Location.text, if_neg other]
      change ("[" ++ ("line " ++ toString loc.line) ++ "]: ").toList = _
      simp

/-- The description of a reason is on one line if its own words are. -/
lemma Node.describe_single {node : Node} (single : '\n' ∉ node.kind.wording.toList) :
    '\n' ∉ node.describe.toList := by
  obtain same | same := node.describe_wording
  · rwa [same]
  · rw [same, String.toList_append, List.mem_append, not_or]
    refine ⟨?_, single⟩
    obtain none | ⟨n, place⟩ := node.place_toList
    · rw [none]
      exact List.not_mem_nil
    · rw [place, List.mem_append, List.mem_append, not_or, not_or]
      refine ⟨by decide, fun mem => ?_, by decide⟩
      have digit := Nat.isDigit_of_mem_toDigits (by decide) (by decide) mem
      cases digit

/-- A text stands in a description if it stands in what this says. -/
lemma Apart.mentions_describe {needle : String} (h : Apart needle) (node : Node) :
    Text.mentions needle node.describe = Text.mentions needle node.kind.wording := by
  obtain same | same := node.describe_wording
  · rw [same]
  · rw [same, Text.mentions, Text.mentions, String.toList_append, decide_eq_decide]
    obtain none | ⟨n, place⟩ := node.place_toList
    · rw [none, List.nil_append]
    · rw [place, List.append_assoc, h.skip (by decide), List.append_assoc, h.skipDigits,
        h.skip (by decide)]

/-- If nothing is repeated, there are no repetitions to leave out. -/
lemma eraseDups_of_nodup {α : Type} [DecidableEq α] {items : List α} (distinct : items.Nodup) :
    items.eraseDups = items := by
  induction items using List.reverseRecOn with
  | nil => rfl
  | append_singleton items item ih =>
    obtain ⟨others, -, new⟩ := List.nodup_append.1 distinct
    rw [eraseDups_concat, if_neg fun mem => new item mem item (List.mem_singleton_self item) rfl,
      ih others]

namespace Graph

/-- The reason is shown, and these numbers are quoted on the lines of its explanation on which a
text stands. -/
structure Quotes (g : Graph) (needle : String) (id : ReasonId) (quoted : List ReasonId) :
    Prop where
  shown : g.shows id = true
  explained : ∃ tree, g.Grown none id tree ∧ (∀ line ∈ tree.lines g, '\n' ∉ line.toList) ∧
    quotes needle (tree.lines g) = quoted.map some

variable {g g' g'' : Graph} {needle : String} {id : ReasonId} {quoted : List ReasonId}
  {supporters : List ReasonId} {lists : List (List ReasonId)}

namespace Quotes

/-- A reason that is quoted has been recorded. -/
lemma lt (h : g.Quotes needle id quoted) : Nat.lt id g.size := by
  obtain ⟨node, found, -⟩ := shows_iff.1 h.shown
  exact lt_size found

/-- Reasons that are quoted have been recorded. -/
lemma known (each : List.Forall₂ (g.Quotes needle) supporters lists) :
    ∀ j : Nat, j ∈ supporters → j < g.size := by
  induction each with
  | nil => exact List.forall_mem_nil _
  | cons first _ ih => exact List.forall_mem_cons.2 ⟨first.lt, ih⟩

/-- What an explanation quotes does not change when further reasons are recorded. -/
lemma later (ordered : g.Ordered) (grows : g.Grows g') (h : g.Quotes needle id quoted) :
    g'.Quotes needle id quoted := by
  have lt : Nat.lt id g.size := h.lt
  obtain ⟨shown, tree, grown, single, quotes⟩ := h
  -- The same tree grows in both graphs, and it is shown on the same lines.
  obtain ⟨tree', grows', grows'', alike⟩ := ordered.grounded.grow_agree (Nat.le_refl _) grows.same
    grows.size lt (.inl (Nat.lt_succ_self id)) (.inl (Nat.lt_succ_self id))
  obtain rfl := (grown_of_grow grows').unique grown
  rw [← show tree'.lines g' = tree'.lines g from alike] at single quotes
  refine ⟨?_, tree', grown_of_grow grows'', single, quotes⟩
  rwa [shows, grows.same id lt]

/-- Trees that explain several reasons, as the branches of one below which these stand. -/
lemma branches (calling : Option ReasonId)
    (each : List.Forall₂ (g.Quotes needle) supporters lists) :
    ∃ branches : List (Label × Tree), branches.map (fun branch => branch.2.reason) = supporters ∧
      (∀ branch ∈ branches, branch.1 = label calling branch.2.reason) ∧
      (∀ branch ∈ branches, g.Grown none branch.2.reason branch.2) ∧
      (∀ branch ∈ branches, ∀ line ∈ branch.2.lines g, '\n' ∉ line.toList) ∧
      branches.flatMap (fun branch => quotes needle (branch.2.lines g)) =
        lists.flatten.map some := by
  induction each with
  | nil =>
    exact ⟨[], rfl, List.forall_mem_nil _, List.forall_mem_nil _, List.forall_mem_nil _, rfl⟩
  | @cons id quoted supporters lists first _ ih =>
    obtain ⟨rest, reasons, labels, growns, singles, quotes⟩ := ih
    obtain ⟨-, tree, grown, single, quotes'⟩ := first
    have top := grown.reason
    refine ⟨(label calling id, tree) :: rest, congrArg₂ _ top reasons,
      List.forall_mem_cons.2 ⟨?_, labels⟩, List.forall_mem_cons.2 ⟨?_, growns⟩,
      List.forall_mem_cons.2 ⟨single, singles⟩, ?_⟩
    · rw [top]
    · rwa [top]
    · rw [List.flatMap_cons, quotes', quotes, List.flatten_cons, List.map_append]

end Quotes

/-- A graph of reasons that rest on shown ones only shows these below a reason. -/
lemma Grounded.children_of_shown {node : Node} (grounded : g.Grounded)
    (found : g.nodes[id]? = some node) (shown : ∀ cause ∈ node.followed, g.shows cause = true)
    (distinct : node.followed.Nodup) : g.children id = .ok node.followed := by
  rw [grounded.children_eq (lt_size found), grounded.unfolded_eq, followedAt_eq found]
  have same : node.followed.flatMap g.inPlace = node.followed.flatMap fun cause => [cause] :=
    List.flatMap_congr fun cause mem => inPlace_of_shown (shown cause mem)
  rw [same, List.flatMap_singleton', eraseDups_of_nodup distinct]

/-- The lines of a reason that is shown on one line, with branches below it, are single lines. -/
lemma lines_single {line : String} {branches : List (Label × Tree)} (continued : Bool)
    (heading : g.heading id continued = [line]) (single : '\n' ∉ line.toList)
    (below : ∀ branch ∈ branches, ∀ line ∈ branch.2.lines g, '\n' ∉ line.toList) :
    ∀ line ∈ g.heading id continued ++ joinBlocks (branches.map g.branchBlock),
      '\n' ∉ line.toList := by
  have carried (lines : List String) (each : ∀ line ∈ lines, '\n' ∉ line.toList) :
      ∀ line ∈ lines.map indented, '\n' ∉ line.toList := by
    intro line mem
    obtain ⟨inner, there, rfl⟩ := List.mem_map.1 mem
    exact (Solid.indented (each inner there)).single
  intro other mem
  rw [heading] at mem
  obtain mem | mem := List.mem_append.1 mem
  · rwa [List.mem_singleton.1 mem]
  obtain rfl | ⟨block, there, mem⟩ := mem_joinBlocks mem
  · decide
  obtain ⟨⟨label, tree⟩, inside, rfl⟩ := List.mem_map.1 there
  have each := below _ inside
  change other ∈ label.block (tree.lines g) at mem
  cases label with
  | because =>
    cases lines : tree.lines g with
    | nil =>
      rw [lines] at mem
      cases mem
    | cons first rest =>
      rw [lines] at mem each
      obtain ⟨first, others⟩ := List.forall_mem_cons.1 each
      obtain rfl | mem := List.mem_cons.1 mem
      · exact (Solid.opening first).single
      · exact carried _ others other mem
  | called | holds =>
    obtain rfl | mem := List.mem_cons.1 mem
    · decide
    · exact carried _ each other mem

/-- A reason that is shown quotes what the reasons quote that it rests on, and before that itself if
the text stands in its description. -/
lemma Quotes.of_node (apart : Apart needle) (ordered : g.Ordered) {node : Node}
    (found : g.nodes[id]? = some node) (shown : node.shown = true)
    (distinct : node.supporters.Nodup)
    (each : List.Forall₂ (g.Quotes needle) node.supporters lists)
    (single : '\n' ∉ node.kind.wording.toList) :
    g.Quotes needle id
      ((if Text.mentions needle node.kind.wording then [id] else []) ++ lists.flatten) := by
  obtain rfl : node.id = id := (ordered id node found).id
  have single := Node.describe_single single
  -- Since all that the reason rests on is shown, nothing is passed over on the way to its children.
  have followed : node.followed = node.supporters := by
    rw [Node.followed, shown]
    cases node.kind <;> rfl
  have causes : ∀ cause ∈ node.followed, g.shows cause = true := by
    intro j mem
    rw [followed] at mem
    obtain ⟨i, lt, rfl⟩ := List.mem_iff_getElem.1 mem
    exact (each.get lt (each.length_eq ▸ lt)).shown
  have children : g.children node.id = .ok node.supporters :=
    (ordered.grounded.children_of_shown found causes (followed.symm ▸ distinct)).trans
      (congrArg _ followed)
  obtain ⟨branches, reasons, labels, growns, singles, below⟩ := Quotes.branches node.calling? each
  -- Whether causes come below or not, the line of the reason mentions what its description does.
  have heading (continued : Bool) : ∃ text, g.heading node.id continued = [node.mark ++ text] ∧
      '\n' ∉ text.toList ∧ Text.mentions needle text = Text.mentions needle node.kind.wording := by
    cases continued with
    | false =>
      refine ⟨node.describe, ?_, single, apart.mentions_describe node⟩
      simp only [Graph.heading, listed, found, Node.listed, Bool.false_eq_true, if_false]
      exact Text.lines_of_single (node.heads single).single
    | true =>
      have single : '\n' ∉ (node.describe ++ " because").toList := by simp [single]
      refine ⟨node.describe ++ " because", ?_, single,
        (apart.mentions_because _).trans (apart.mentions_describe node)⟩
      simp only [Graph.heading, listed, found, Node.listed, if_true, String.append_assoc]
      exact Text.lines_of_single (node.heads single).single
  obtain ⟨text, headed, alone, mentions⟩ := heading (!branches.isEmpty)
  refine ⟨(shows_eq found).trans shown, .node node.id false branches, ?_, ?_, ?_⟩
  · exact .spread found (Option.some_ne_none 0).symm (children.trans (congrArg _ reasons.symm))
      labels growns
  · rw [lines_spread]
    exact lines_single _ headed (node.heads alone).single singles
  · have blocks : (branches.map g.branchBlock).flatMap (quotes needle) =
        branches.flatMap fun branch => quotes needle (branch.2.lines g) := by
      rw [List.flatMap_map]
      exact List.flatMap_congr fun branch _ => apart.quotes_block branch.1 _
    have own : Text.mentions needle (node.mark ++ text) = Text.mentions needle node.kind.wording :=
      (apart.mentions_marked node text).trans mentions
    rw [lines_spread, headed, quotes_append, apart.quotes_joinBlocks, blocks, below, quotes_cons,
      own, quotedId?_marked, List.map_append]
    split <;> rfl

/-- A tree that is not cut off has a line. -/
lemma lines_ne_nil (g : Graph) (id : ReasonId) (branches : List (Label × Tree)) :
    (Tree.node id false branches).lines g ≠ [] := by
  rw [lines_spread, Graph.heading, Text.lines, Text.piecesAt_eq_splitOnP]
  exact List.append_ne_nil_of_left_ne_nil
    (mt List.map_eq_nil_iff.1 (List.splitOnP_ne_nil _ _)) _

/-- On so many lines of the whole explanation the text stands, with these numbers. -/
lemma Quotes.explains (ordered : g.Ordered) (h : g.Quotes needle id quoted) :
    ∃ text, g.explainTree id none = .ok text ∧
      (Text.linesWith needle text).length = quoted.length ∧
      Text.idsOn needle text = quoted.eraseDups := by
  have lt : Nat.lt id g.size := h.lt
  obtain ⟨-, tree, grown, single, quotes⟩ := h
  obtain ⟨text, explains⟩ := (ordered.grounded.explains lt).2 none
  obtain ⟨tree', grows, is⟩ := of_bind_ok explains
  obtain rfl := (grown_of_tree grows).unique grown
  cases is
  have lines : Text.lines ("\n".intercalate (tree'.lines g)) = tree'.lines g := by
    cases grown with
    | spread => exact Text.lines_intercalate (lines_ne_nil g id _) single
  have found : (Text.linesWith needle ("\n".intercalate (tree'.lines g))).map Text.quotedId? =
      quoted.map some := by
    rw [Text.linesWith, lines, ← quotes]
    rfl
  refine ⟨_, explains, ?_, ?_⟩
  · rw [← List.length_map Text.quotedId?, found, List.length_map]
  · have ids : (Text.linesWith needle ("\n".intercalate (tree'.lines g))).filterMap
        Text.quotedId? = (quoted.map some).filterMap fun number => number := by
      rw [← found, List.filterMap_map]
      rfl
    rw [Text.idsOn, ids, List.filterMap_map]
    exact congrArg List.eraseDups (List.filterMap_some ..)

end Graph

end Because
