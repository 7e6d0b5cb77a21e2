import Because.Graph.Tree
import Because.Text.Blank

/-!
# Explanations as text

Three ways to write why a reason holds: in one sentence, with the direct supporters on lines of
their own, and as an indented tree.

A tree reads

    - (#4) top because
    |-- (#3) middle because
    | |-- (#0) a
    | |
    | |-- (#1) b
    |
    |-- (#2) c

where the line between two children is a bar and a blank.
-/

namespace Because

/-- A line that continues what stands above it. -/
def indented (line : String) : String := "| " ++ line

/-- A line that opens a child. -/
def opening (line : String) : String := "|-" ++ line

namespace Label

/-- The lines of a child below its parent. -/
def block : Label → List String → List String
  | .because, [] => []
  | .because, first :: rest => opening first :: rest.map indented
  | .called, lines => opening "Called because" :: lines.map indented
  | .holds, lines => opening "True because" :: lines.map indented

end Label

namespace Graph

/-- A reason as lists show it; a number that no reason has shows nothing. -/
def listed (g : Graph) (id : ReasonId) : String :=
  match g.nodes[id]? with
  | some node => node.listed
  | none => ""

/-- The lines of a reason; a reason with something below it ends with `because`. -/
def heading (g : Graph) (id : ReasonId) (continued : Bool) : List String :=
  Text.lines (if continued then g.listed id ++ " because" else g.listed id)

end Graph

/-- The blocks of the children of a reason, with a separating line between two of them. -/
def joinBlocks (blocks : List (List String)) : List String :=
  (blocks.intersperse [indented ""]).flatten

mutual

/-- The lines of a tree, the first of which describes its reason. -/
def Tree.lines (g : Graph) : Tree → List String
  | .node id more branches =>
    if more then g.heading id true ++ [opening " (more)"]
    else g.heading id (!branches.isEmpty) ++ joinBlocks (Tree.blocks g branches)

/-- The blocks of the children, one for each. -/
def Tree.blocks (g : Graph) : List (Label × Tree) → List (List String)
  | [] => []
  | (label, tree) :: rest => label.block (tree.lines g) :: Tree.blocks g rest

end

namespace Graph

/-- A reason and its direct supporters in one sentence. -/
def explain (g : Graph) (id : ReasonId) : Except GraphError String := do
  let node ← g.get id
  if node.supporters.isEmpty then
    return node.describe
  else
    let causes ← node.supporters.mapM fun supporter => return (← g.get supporter).describe
    return node.describe ++ " because " ++ ", and ".intercalate causes

/-- A reason and its direct supporters, each on its own line. -/
def explainOneLevel (g : Graph) (id : ReasonId) : Except GraphError String := do
  let node ← g.get id
  let causes ← node.supporters.mapM fun supporter => return (← g.get supporter).listed
  let lines := g.heading id (!node.supporters.isEmpty) ++ (causes.flatMap Text.lines).map indented
  return "\n".intercalate lines

/-- The explanation of a reason as a tree: as far as `depth` reaches, or whole. -/
def explainTree (g : Graph) (id : ReasonId) (depth : Option Nat) : Except GraphError String := do
  let tree ← g.tree id depth
  return "\n".intercalate (tree.lines g)

end Graph

end Because
