import Because.Proofs.Graph.Trees
import Because.Proofs.Text.Readback
import Mathlib.Data.List.SplitBy

/-!
# Explanations can be read back

The text of an explanation shows its tree: a reader that knows nothing but the text finds the
number at every position, the order of the children, how each is introduced and what is cut off,
as long as no description has a line feed in it. The first line of a tree carries the number, so
that a description can say what it likes; a line that opens a child starts with a bar and a dash;
no other line below does, because it carries on with a bar and a blank; and a line with nothing
after these stands only between two children.
-/

namespace Because

/-! ## A reader -/

/-- The number in the mark that a line starts with. -/
def markedId? (line : String) : Option ReasonId :=
  (Text.dropStart? "- (#" line).bind fun rest =>
    Text.readDigits? (rest.toList.takeWhile Char.isDigit)

/-- Whether a line opens a child. -/
def opens (line : String) : Bool := "|-".toList.isPrefixOf line.toList

/-- The lines below a heading, child by child, without those that separate children. -/
def blocksOf (lines : List String) : List (List String) :=
  (lines.filter (· ≠ indented "")).splitBy fun _ line => !opens line

/-- How a block introduces a child, and the lines of the child. -/
def readBlock? : List String → Option (Label × List String)
  | [] => none
  | first :: rest => do
    let start ← Text.dropStart? "|-" first
    let lines ← rest.mapM (Text.dropStart? "| ")
    if start = "Called because" then return (.called, lines)
    else if start = "True because" then return (.holds, lines)
    else return (.because, start :: lines)

/-- The tree that lines show. A child has fewer lines than its parent, so that as many steps as
there are lines are enough. -/
def readLines? : Nat → List String → Option Tree
  | steps + 1, heading :: below => do
    let id ← markedId? heading
    if below = [opening " (more)"] then
      return .node id true []
    else
      let branches ← (blocksOf below).mapM fun block => do
        let (label, lines) ← readBlock? block
        let tree ← readLines? steps lines
        return (label, tree)
      return .node id false branches
  | _, _ => none

/-- The tree that a text shows. -/
def Tree.read? (text : String) : Option Tree :=
  let lines := Text.lines text
  readLines? lines.length lines

/-- What is written item by item is read item by item. -/
lemma mapM_map_some {α β : Type} {read : β → Option α} {write : α → β} {items : List α}
    (each : ∀ item ∈ items, read (write item) = some item) :
    (items.map write).mapM read = some items := by
  induction items with
  | nil => rfl
  | cons item rest ih =>
    obtain ⟨first, others⟩ := List.forall_mem_cons.1 each
    rw [List.map_cons, List.mapM_cons, first, ih others]
    rfl

/-! ## Lines -/

/-- A line with something on it. -/
structure Solid (line : String) : Prop where
  filled : line ≠ ""
  single : '\n' ∉ line.toList

/-- The lines of a tree: the first is a heading, and all have something on them. -/
structure Legible (lines : List String) : Prop where
  headed : ∃ heading below, lines = heading :: below ∧ ['-'] <+: heading.toList
  solid : ∀ line ∈ lines, Solid line

/-- The lines of a child below its parent: the first one opens it, and no other does so or looks as
if it stood between two children. -/
structure Opened (block : List String) : Prop where
  first : ∃ line rest, block = line :: rest ∧ opens line = true ∧
    ∀ line ∈ rest, opens line = false ∧ line ≠ indented ""
  solid : ∀ line ∈ block, Solid line

/-- The first line of a block opens it. -/
lemma opens_opening (line : String) : opens (opening line) = true := by
  simp [opens, opening, List.isPrefixOf]

/-- The other lines of a block do not open one. -/
lemma opens_indented (line : String) : opens (indented line) = false := by
  simp [opens, indented, List.isPrefixOf]

/-- Lines that are indented alike are the same. -/
lemma indented_inj {line other : String} (same : indented line = indented other) :
    line = other := by
  simpa [indented] using same

/-- The first line of a block is solid, whatever stands on it. -/
lemma Solid.opening {line : String} (single : '\n' ∉ line.toList) : Solid (opening line) where
  filled := by simp [Because.opening, ← String.toList_inj]
  single := by simpa [Because.opening] using single

/-- Another line of a block is solid, whatever stands on it. -/
lemma Solid.indented {line : String} (single : '\n' ∉ line.toList) : Solid (indented line) where
  filled := by simp [Because.indented, ← String.toList_inj]
  single := by simpa [Because.indented] using single

/-! ## Blocks -/

section

variable {lines : List String} {label : Label} {blocks : List (List String)}

/-- The lines of a child carry on below its parent. -/
lemma rest_indented (solid : ∀ line ∈ lines, Solid line) :
    ∀ line ∈ lines.map indented, (opens line = false ∧ line ≠ indented "") ∧ Solid line := by
  intro line mem
  obtain ⟨inner, there, rfl⟩ := List.mem_map.1 mem
  have solid := solid inner there
  exact ⟨⟨opens_indented inner, fun same => solid.filled (indented_inj same)⟩,
    .indented solid.single⟩

/-- A block that opens with a line and carries on with others. -/
lemma Opened.of_indented {line : String} (single : '\n' ∉ line.toList)
    (solid : ∀ line ∈ lines, Solid line) : Opened (opening line :: lines.map indented) where
  first := ⟨_, _, rfl, opens_opening line, fun line mem => (rest_indented solid line mem).1⟩
  solid := List.forall_mem_cons.2
    ⟨.opening single, fun line mem => (rest_indented solid line mem).2⟩

namespace Legible

/-- The block of a legible child opens once and has no separator inside it. -/
lemma opened (h : Legible lines) (label : Label) : Opened (label.block lines) := by
  cases label with
  | because =>
    obtain ⟨heading, below, rfl, -⟩ := h.headed
    obtain ⟨first, others⟩ := List.forall_mem_cons.1 h.solid
    exact .of_indented first.single others
  | called => exact .of_indented (by decide) h.solid
  | holds => exact .of_indented (by decide) h.solid

/-- What is legible has a line. -/
lemma pos (h : Legible lines) : 0 < lines.length := by
  obtain ⟨heading, below, rfl, -⟩ := h.headed
  exact Nat.succ_pos _

/-- A block has at least the lines of its child. -/
lemma length_le_block (h : Legible lines) (label : Label) :
    lines.length ≤ (label.block lines).length := by
  obtain ⟨heading, below, rfl, -⟩ := h.headed
  cases label <;> simp [Label.block]

/-- A block says how it introduces a child, and gives back its lines. -/
lemma readBlock?_block (h : Legible lines) (label : Label) :
    readBlock? (label.block lines) = some (label, lines) := by
  have carries (lines : List String) :
      (lines.map indented).mapM (Text.dropStart? "| ") = some lines :=
    mapM_map_some fun line _ => Text.dropStart?_append "| " line
  have begins (line : String) : Text.dropStart? "|-" (opening line) = some line :=
    Text.dropStart?_append "|-" line
  cases label with
  | because =>
    obtain ⟨heading, below, rfl, marked⟩ := h.headed
    -- A heading is not one of the two lines that introduce the causes of a record.
    have other (line : String) (apart : ¬ ['-'] <+: line.toList) : heading ≠ line := by
      rintro rfl
      exact apart marked
    simp only [Label.block, readBlock?, begins, carries, Option.bind_eq_bind, Option.bind_some,
      other "Called because" (by decide), other "True because" (by decide), if_false]
    rfl
  | called =>
    simp only [Label.block, readBlock?, begins, carries, Option.bind_eq_bind, Option.bind_some,
      if_true]
    rfl
  | holds =>
    have other : "True because" ≠ "Called because" := by decide
    simp only [Label.block, readBlock?, begins, carries, Option.bind_eq_bind, Option.bind_some,
      other, if_true, if_false]
    rfl

end Legible

/-- Between two blocks there is a separator. -/
lemma joinBlocks_cons_cons (block next : List String) (rest : List (List String)) :
    joinBlocks (block :: next :: rest) = block ++ indented "" :: joinBlocks (next :: rest) := by
  simp [joinBlocks]

/-- A line of joined blocks is one of a block, or stands between two. -/
lemma mem_joinBlocks {line : String} (mem : line ∈ joinBlocks blocks) :
    line = indented "" ∨ ∃ block ∈ blocks, line ∈ block := by
  induction blocks with
  | nil => cases mem
  | cons block rest ih =>
    cases rest with
    | nil => exact .inr ⟨block, List.mem_cons_self, by simpa [joinBlocks] using mem⟩
    | cons next rest =>
      rw [joinBlocks_cons_cons, List.mem_append, List.mem_cons] at mem
      obtain mem | rfl | mem := mem
      · exact .inr ⟨block, List.mem_cons_self, mem⟩
      · exact .inl rfl
      · exact (ih mem).imp_right fun ⟨other, there, mem⟩ =>
          ⟨other, List.mem_cons_of_mem _ there, mem⟩

/-- A block has no separator to be left out. -/
lemma Opened.filter_eq {block : List String} (h : Opened block) :
    block.filter (· ≠ indented "") = block := by
  obtain ⟨line, rest, rfl, starts, others⟩ := h.first
  refine List.filter_eq_self.2 (List.forall_mem_cons.2 ⟨?_, fun other mem => ?_⟩)
  · refine decide_eq_true ?_
    rintro rfl
    rw [opens_indented] at starts
    cases starts
  · exact decide_eq_true (others other mem).2

/-- Without the lines between them, joined blocks are just put together. -/
lemma filter_joinBlocks (opened : ∀ block ∈ blocks, Opened block) :
    (joinBlocks blocks).filter (· ≠ indented "") = blocks.flatten := by
  induction blocks with
  | nil => rfl
  | cons block rest ih =>
    obtain ⟨first, others⟩ := List.forall_mem_cons.1 opened
    cases rest with
    | nil => simpa [joinBlocks] using first.filter_eq
    | cons next rest =>
      rw [joinBlocks_cons_cons, List.filter_append, first.filter_eq,
        List.filter_cons_of_neg (by simp), ih others]
      rfl

/-- Each block is at most as long as all of them together. -/
lemma length_le_joinBlocks (opened : ∀ block ∈ blocks, Opened block) {block : List String}
    (mem : block ∈ blocks) : block.length ≤ (joinBlocks blocks).length := by
  have within : block.Sublist ((joinBlocks blocks).filter (· ≠ indented "")) := by
    rw [filter_joinBlocks opened]
    exact List.sublist_flatten_of_mem mem
  exact (within.trans List.filter_sublist).length_le

/-- Joined blocks are found again. -/
lemma blocksOf_joinBlocks (opened : ∀ block ∈ blocks, Opened block) :
    blocksOf (joinBlocks blocks) = blocks := by
  rw [blocksOf, filter_joinBlocks opened]
  refine List.splitBy_flatten ?_ ?_ ?_
  · intro mem
    obtain ⟨line, rest, is, -⟩ := (opened [] mem).first
    cases is
  · intro block mem
    obtain ⟨line, rest, rfl, -, others⟩ := (opened block mem).first
    have carryOn : ∀ line ∈ rest, (!opens line) = true := fun line mem => by
      rw [(others line mem).1]
      rfl
    refine (List.pairwise_cons.2 ⟨carryOn, ?_⟩).isChain
    exact List.pairwise_of_forall_mem_list fun _ _ line mem => carryOn line mem
  · refine (List.pairwise_of_forall_mem_list fun block mem next mem' => ?_).isChain
    obtain ⟨line, rest, rfl, -⟩ := (opened block mem).first
    obtain ⟨line', rest', rfl, starts, -⟩ := (opened next mem').first
    exact ⟨List.cons_ne_nil _ _, List.cons_ne_nil _ _, by simp [starts]⟩

end

/-! ## Headings -/

/-- The first line of a tree that explains a reason. -/
structure Heads (id : ReasonId) (line : String) : Prop where
  marked : markedId? line = some id
  dash : ['-'] <+: line.toList
  single : '\n' ∉ line.toList

/-- A heading and solid lines below it are legible. -/
lemma Heads.legible {id : ReasonId} {line : String} (h : Heads id line) {below : List String}
    (solid : ∀ line ∈ below, Solid line) : Legible (line :: below) where
  headed := ⟨line, below, rfl, h.dash⟩
  solid := by
    refine List.forall_mem_cons.2 ⟨⟨?_, h.single⟩, solid⟩
    rintro rfl
    exact absurd h.dash (by decide)

/-- The mark of a reason, character by character. -/
lemma Node.mark_toList (node : Node) :
    node.mark.toList = "- (#".toList ++ (Nat.toDigits 10 node.id ++ ") ".toList) := by
  change ("- (#" ++ toString node.id ++ ") ").toList = _
  simp

/-- A line that starts with the mark of a reason heads a tree that explains it. -/
lemma Node.heads (node : Node) {text : String} (single : '\n' ∉ text.toList) :
    Heads node.id (node.mark ++ text) where
  marked := by
    have split : node.mark ++ text =
        "- (#" ++ String.ofList (Nat.toDigits 10 node.id ++ (") ".toList ++ text.toList)) := by
      rw [← String.toList_inj]
      simp [node.mark_toList]
    have digits : ∀ c ∈ Nat.toDigits 10 node.id, c.isDigit = true := fun c mem =>
      Nat.isDigit_of_mem_toDigits (by decide) (by decide) mem
    rw [split, markedId?, Text.dropStart?_append, Option.bind_some, String.toList_ofList,
      List.takeWhile_append_of_pos digits]
    have ends : (") ".toList ++ text.toList).takeWhile Char.isDigit = [] := rfl
    rw [ends, List.append_nil, Text.readDigits?_toDigits]
  dash := by
    rw [String.toList_append, node.mark_toList]
    exact ⟨_, rfl⟩
  single := by
    have digit : '\n' ∉ Nat.toDigits 10 node.id := fun mem =>
      absurd (Nat.isDigit_of_mem_toDigits (by decide) (by decide) mem) (by decide)
    simp [node.mark_toList, digit, single]

namespace Graph

variable {g : Graph} {id : ReasonId} {node : Node} {depth : Option Nat} {tree : Tree}

/-- No description of a reason has a line feed in it. -/
def OneLine (g : Graph) : Prop := ∀ node ∈ g.nodes.toList, '\n' ∉ node.describe.toList

instance (g : Graph) : Decidable g.OneLine :=
  inferInstanceAs (Decidable (∀ node ∈ g.nodes.toList, '\n' ∉ node.describe.toList))

/-- The heading of a reason is one line. -/
lemma OneLine.heading (oneLine : g.OneLine) (descending : g.Descending)
    (found : g.nodes[id]? = some node) (continued : Bool) :
    ∃ line, g.heading id continued = [line] ∧ Heads id line := by
  have single := oneLine node (Array.mem_toList_iff.2 (Array.mem_of_getElem? found))
  have number := (descending.placed id node found).id
  cases continued with
  | false =>
    have heads := node.heads single
    rw [number] at heads
    refine ⟨_, ?_, heads⟩
    simp only [Graph.heading, listed, found, Node.listed, Bool.false_eq_true, if_false]
    exact Text.lines_of_single heads.single
  | true =>
    have single : '\n' ∉ (node.describe ++ " because").toList := by simp [single]
    have heads := node.heads single
    rw [number] at heads
    refine ⟨_, ?_, heads⟩
    simp only [Graph.heading, listed, found, Node.listed, if_true, String.append_assoc]
    exact Text.lines_of_single heads.single

/-! ## Trees -/

/-- A tree that is cut off has a heading and says that there is more. -/
lemma lines_cut (g : Graph) (id : ReasonId) (branches : List (Label × Tree)) :
    (Tree.node id true branches).lines g = g.heading id true ++ [opening " (more)"] := by
  simp only [Tree.lines, if_true]

/-- The block of a child below its parent. -/
def branchBlock (g : Graph) (branch : Label × Tree) : List String :=
  branch.1.block (branch.2.lines g)

/-- A tree that is not cut off has a heading and the blocks of its children. -/
lemma lines_spread (g : Graph) (id : ReasonId) (branches : List (Label × Tree)) :
    (Tree.node id false branches).lines g =
      g.heading id (!branches.isEmpty) ++ joinBlocks (branches.map g.branchBlock) := by
  simp only [Tree.lines, Bool.false_eq_true, if_false, blocks_eq_map]
  rfl

/-- The lines of all children are legible. -/
def LegibleBelow (g : Graph) (branches : List (Label × Tree)) : Prop :=
  ∀ branch ∈ branches, Legible (branch.2.lines g)

namespace LegibleBelow

variable {branches : List (Label × Tree)}

/-- The blocks of legible children are opened. -/
lemma opened (h : g.LegibleBelow branches) :
    ∀ block ∈ branches.map g.branchBlock, Opened block := by
  intro block mem
  obtain ⟨branch, there, rfl⟩ := List.mem_map.1 mem
  exact (h branch there).opened branch.1

/-- The blocks of legible children consist of solid lines. -/
lemma solid (h : g.LegibleBelow branches) :
    ∀ line ∈ joinBlocks (branches.map g.branchBlock), Solid line := by
  intro line mem
  obtain rfl | ⟨block, there, mem⟩ := mem_joinBlocks mem
  · exact .indented (by decide)
  · exact (h.opened block there).solid line mem

/-- Each legible child has at most the lines of all blocks together. -/
lemma length_le (h : g.LegibleBelow branches) {branch : Label × Tree} (mem : branch ∈ branches) :
    (branch.2.lines g).length ≤ (joinBlocks (branches.map g.branchBlock)).length :=
  Nat.le_trans ((h branch mem).length_le_block branch.1)
    (length_le_joinBlocks h.opened (List.mem_map_of_mem mem))

/-- Blocks of children are not the line that stands for all that is cut off. -/
lemma ne_more (h : g.LegibleBelow branches) :
    joinBlocks (branches.map g.branchBlock) ≠ [opening " (more)"] := by
  intro same
  have blocks := blocksOf_joinBlocks h.opened
  rw [same] at blocks
  have only : [opening " (more)"] ∈ blocksOf [opening " (more)"] := by decide
  rw [blocks] at only
  obtain ⟨branch, there, is⟩ := List.mem_map.1 only
  -- Such a block would be that of a child whose heading is no heading.
  have child := h branch there
  have read := child.readBlock?_block branch.1
  rw [show branch.1.block _ = _ from is] at read
  have plain : readBlock? [opening " (more)"] = some (.because, [" (more)"]) := by decide
  obtain ⟨-, lines⟩ := Prod.mk.inj (Option.some.inj (plain.symm.trans read))
  obtain ⟨heading, below, starts, dash⟩ := child.headed
  rw [starts] at lines
  obtain ⟨rfl, -⟩ := List.cons.inj lines
  exact absurd dash (by decide)

end LegibleBelow

/-- The lines of a tree are legible. -/
lemma Grown.legible (oneLine : g.OneLine) (descending : g.Descending)
    (h : g.Grown depth id tree) : Legible (tree.lines g) := by
  induction h with
  | @cut id node found =>
    cases !node.supporters.isEmpty with
    | true =>
      obtain ⟨line, heading, heads⟩ := oneLine.heading descending found true
      rw [lines_cut, heading]
      exact heads.legible (List.forall_mem_singleton.2 (.opening (by decide)))
    | false =>
      obtain ⟨line, heading, heads⟩ := oneLine.heading descending found false
      rw [lines_spread, List.isEmpty_nil, Bool.not_true, heading]
      exact heads.legible (List.forall_mem_nil _)
  | @spread depth id node branches found _ _ _ _ ih =>
    obtain ⟨line, heading, heads⟩ := oneLine.heading descending found (!branches.isEmpty)
    rw [lines_spread, heading]
    exact heads.legible (LegibleBelow.solid ih)

/-- The reader finds the tree in its lines. -/
lemma Grown.reads (oneLine : g.OneLine) (descending : g.Descending) (h : g.Grown depth id tree)
    {steps : Nat} (enough : (tree.lines g).length ≤ steps) :
    readLines? steps (tree.lines g) = some tree := by
  obtain ⟨steps, rfl⟩ :=
    Nat.exists_eq_add_of_le' (Nat.le_trans (h.legible oneLine descending).pos enough)
  -- The induction is on the tree as it was grown. A reader of `n + 1` steps has `n` left for each
  -- branch, and the lines of a branch are fewer than those of the whole.
  induction h generalizing steps with
  | @cut id node found =>
    cases !node.supporters.isEmpty with
    | true =>
      obtain ⟨line, heading, heads⟩ := oneLine.heading descending found true
      rw [lines_cut, heading, List.singleton_append, readLines?, heads.marked]
      rfl
    | false =>
      obtain ⟨line, heading, heads⟩ := oneLine.heading descending found false
      rw [lines_spread, List.isEmpty_nil, Bool.not_true, heading, List.singleton_append,
        readLines?, heads.marked]
      rfl
  | @spread depth id node branches found _ _ _ below ih =>
    obtain ⟨line, heading, heads⟩ := oneLine.heading descending found (!branches.isEmpty)
    have legible : g.LegibleBelow branches := fun branch mem =>
      (below branch mem).legible oneLine descending
    rw [lines_spread, heading, List.singleton_append, List.length_cons] at enough
    have each : (branches.map g.branchBlock).mapM (fun block => do
        let (label, lines) ← readBlock? block
        let tree ← readLines? steps lines
        return (label, tree)) = some branches := by
      refine mapM_map_some fun branch mem => ?_
      have short := Nat.le_trans (legible.length_le mem) (Nat.le_of_succ_le_succ enough)
      obtain ⟨fewer, rfl⟩ := Nat.exists_eq_add_of_le' (Nat.le_trans (legible branch mem).pos short)
      have child := ih branch mem fewer short
      rw [branchBlock, (legible branch mem).readBlock?_block, Option.bind_eq_bind,
        Option.bind_some]
      dsimp only
      rw [child]
      rfl
    rw [lines_spread, heading, List.singleton_append, readLines?, heads.marked,
      Option.bind_eq_bind, Option.bind_some, if_neg legible.ne_more,
      blocksOf_joinBlocks legible.opened, each]
    rfl

/-- The reader finds the tree of every explanation. -/
lemma OneLine.reads (oneLine : g.OneLine) (descending : g.Descending) {text : String}
    (explains : g.explainTree id depth = .ok text) :
    ∃ tree, g.tree id depth = .ok tree ∧ Tree.read? text = some tree := by
  obtain ⟨tree, grows, is⟩ := of_bind_ok explains
  cases is
  have grown := grown_of_tree grows
  have legible := grown.legible oneLine descending
  have lines := Text.lines_intercalate (List.ne_nil_of_length_pos legible.pos)
    fun line mem => (legible.solid line mem).single
  refine ⟨tree, grows, ?_⟩
  rw [Tree.read?, lines]
  exact grown.reads oneLine descending (Nat.le_refl _)

end Graph

/-! ## Positions -/

namespace Tree

/-- Whether the causes of the reason at the root are cut off. -/
def more : Tree → Bool
  | .node _ more _ => more

/-- The children of the reason at the root, with their labels. -/
def branches : Tree → List (Label × Tree)
  | .node _ _ branches => branches

/-- The part of a tree at a position, which is the way to it from the root: the places of the
branches to take, one after the other. -/
def at? : Tree → List Nat → Option Tree
  | tree, [] => some tree
  | .node _ _ branches, place :: way => (branches[place]?).bind fun branch => branch.2.at? way

end Tree

namespace Graph

variable {g : Graph} {id : ReasonId} {depth : Option Nat} {tree : Tree}

/-- The children of a reason; a number that no reason has stands for one without children. -/
def childrenOf (g : Graph) (id : ReasonId) : List ReasonId :=
  match g.children id with
  | .ok children => children
  | .error _ => []

/-- The reason to which a way leads: to the child at a place, from it to one of its own, and so
on. -/
def descend? (g : Graph) : ReasonId → List Nat → Option ReasonId
  | id, [] => some id
  | id, place :: way => ((g.childrenOf id)[place]?).bind fun child => g.descend? child way

/-- A tree displays the ways from a reason to its children and on, as far as a depth reaches. -/
structure Displays (g : Graph) (id : ReasonId) (depth : Option Nat) (tree : Tree) : Prop where
  /-- At every position stands the reason to which the way leads. -/
  positions : ∀ way, (tree.at? way).map Tree.reason =
    if depth.all (way.length ≤ ·) then g.descend? id way else none
  /-- Reasons with causes are cut off where the depth ends, and nowhere else, and children are
  introduced as it befits the reason above. -/
  parts : ∀ way part, tree.at? way = some part → ∃ node, g.nodes[part.reason]? = some node ∧
    (part.more = true ↔ depth = some way.length ∧ node.supporters ≠ []) ∧
    ∀ branch ∈ part.branches, branch.1 = label node.calling? branch.2.reason

/-- Children that can be listed are the children of the reason. -/
lemma childrenOf_eq {children : List ReasonId} (listed : g.children id = .ok children) :
    g.childrenOf id = children := by
  simp only [childrenOf, listed]

/-- One step down, a depth reaches as far as it does from above. -/
lemma all_pred (deeper : depth ≠ some 0) (steps : Nat) :
    (depth.map (· - 1)).all (steps ≤ ·) = depth.all (steps + 1 ≤ ·) := by
  cases depth with
  | none => rfl
  | some bound =>
    have : bound ≠ 0 := fun zero => deeper (congrArg some zero)
    simp only [Option.map_some, Option.all_some, decide_eq_decide]
    omega

/-- One step down, a depth ends where it does from above. -/
lemma pred_eq_iff (deeper : depth ≠ some 0) (steps : Nat) :
    depth.map (· - 1) = some steps ↔ depth = some (steps + 1) := by
  cases depth with
  | none => simp
  | some bound =>
    have : bound ≠ 0 := fun zero => deeper (congrArg some zero)
    simp only [Option.map_some, Option.some.injEq]
    omega

/-- A tree that has grown as far as a depth displays what lies within it. -/
lemma Grown.displays (h : g.Grown depth id tree) : g.Displays id depth tree := by
  induction h with
  | @cut id node found =>
    constructor
    · intro way
      cases way <;> simp [Tree.at?, Tree.reason, descend?]
    · intro way part is
      cases way with
      | nil =>
        cases is
        exact ⟨node, found, by simp [Tree.more], List.forall_mem_nil _⟩
      | cons place way => simp [Tree.at?] at is
  | @spread depth id node branches found deeper listed labels _ ih =>
    constructor
    · intro way
      cases way with
      | nil => simp [Tree.at?, Tree.reason, descend?]
      | cons place way =>
        rw [Tree.at?, descend?, childrenOf_eq listed, List.getElem?_map]
        cases stands : branches[place]? with
        | none => simp
        | some branch =>
          have below := (ih branch (List.mem_of_getElem? stands)).positions way
          rw [all_pred deeper] at below
          exact below
    · intro way part is
      cases way with
      | nil =>
        cases is
        refine ⟨node, found, ?_, labels⟩
        simp [Tree.more, deeper]
      | cons place way =>
        obtain ⟨branch, stands, is⟩ := Option.bind_eq_some_iff.1 is
        have below := (ih branch (List.mem_of_getElem? stands)).parts way part is
        rw [pred_eq_iff deeper] at below
        exact below

/-- Whatever operations have made a graph, if all that was recorded in the unrestricted way had its
values among its supporters, and no description has a line feed in it, every reason has an
explanation to every depth, in whose text a reader finds the tree that it shows; and that tree
displays what lies within the depth. So two explanations with the same text, be they of one graph
or of two, show the same tree. -/
theorem explanations_read_back (operations : List Operation)
    (added : ∀ kind supporters location, .add kind supporters location ∈ operations →
      kind.values ⊆ supporters)
    (oneLine : (empty.after operations).OneLine) :
    let g := empty.after operations
    (∀ id : Nat, id < g.size → ∀ depth : Option Nat, ∃ text tree,
      g.explainTree id depth = .ok text ∧ g.tree id depth = .ok tree ∧
      Tree.read? text = some tree ∧ g.Displays id depth tree) ∧
    ∀ others : List Operation,
      (∀ kind supporters location, .add kind supporters location ∈ others →
        kind.values ⊆ supporters) →
      (empty.after others).OneLine → ∀ id id' depth depth' text,
        g.explainTree id depth = .ok text →
        (empty.after others).explainTree id' depth' = .ok text →
        (empty.after others).tree id' depth' = g.tree id depth := by
  intro g
  have descending : g.Descending := descending_after added
  constructor
  · intro id lt depth
    obtain ⟨text, explains⟩ := (descending.grounded.explains lt).2 depth
    obtain ⟨tree, grows, reads⟩ := oneLine.reads descending explains
    exact ⟨text, tree, explains, grows, reads, (grown_of_tree grows).displays⟩
  · intro others added' oneLine' id id' depth depth' text explains explains'
    obtain ⟨tree, grows, reads⟩ := oneLine.reads descending explains
    obtain ⟨tree', grows', reads'⟩ := oneLine'.reads (descending_after added') explains'
    rw [grows, grows', Option.some.inj (reads.symm.trans reads')]

/-- The tree of a graph with a hidden record is read from its text, and so is that of the graph
that comes about by one more operation. -/
theorem explanations_read_back_of_shared :
    (∀ kind supporters location, .add kind supporters location ∈ shared →
      kind.values ⊆ supporters) ∧
    (empty.after shared).OneLine ∧ 3 < (empty.after shared).size ∧
    (∀ kind supporters location, .add kind supporters location ∈ shared ++ [.unknown] →
      kind.values ⊆ supporters) ∧
    (empty.after (shared ++ [.unknown])).OneLine ∧
    ∃ text tree, (empty.after shared).explainTree 3 (some 1) = .ok text ∧
      (empty.after shared).tree 3 (some 1) = .ok tree ∧ Tree.read? text = some tree ∧
      (empty.after shared).Displays 3 (some 1) tree ∧
      (empty.after (shared ++ [.unknown])).explainTree 3 none = .ok text ∧
      (empty.after (shared ++ [.unknown])).tree 3 none = .ok tree := by
  have added : ∀ kind supporters location, .add kind supporters location ∈ shared ++ [.unknown] →
      kind.values ⊆ supporters := by
    intro kind supporters location mem
    simp [shared] at mem
  have oneLine : (empty.after shared).OneLine := by decide
  have oneLine' : (empty.after (shared ++ [.unknown])).OneLine := by decide
  have same : (empty.after (shared ++ [.unknown])).explainTree 3 none =
      (empty.after shared).explainTree 3 (some 1) := by decide
  obtain ⟨each, equal⟩ := explanations_read_back shared shared_added oneLine
  obtain ⟨text, tree, explains, grows, reads, displays⟩ := each 3 (by decide) (some 1)
  have explains' := same.trans explains
  have grows' := equal _ added oneLine' 3 3 (some 1) none text explains explains'
  exact ⟨shared_added, oneLine, by decide, added, oneLine', text, tree, explains, grows, reads,
    displays, explains', grows'.trans grows⟩

end Graph

end Because
