import Because.Graph.Children

/-!
# Explanation trees

The tree that an explanation shows: a reason, below it its children, and so on down to a depth.
Where the depth ends, a reason with causes is marked as cut off.
-/

namespace Because

/-- How a child is introduced. -/
inductive Label where
  /-- Below a reason that is not a record, a child is just a cause. -/
  | because
  /-- Below a record: why it was asked for. -/
  | called
  /-- Below a record: why its value is what it is. -/
  | holds
  deriving DecidableEq, Inhabited

/-- A displayed reason, whether its causes are cut off, and its children. -/
inductive Tree where
  | node (id : ReasonId) (more : Bool) (branches : List (Label × Tree))
  deriving Inhabited

namespace Graph

/-- How `child` is introduced below a reason that was, or was not, asked for. -/
def label (calling : Option ReasonId) (child : ReasonId) : Label :=
  match calling with
  | none => .because
  | some reason => if child = reason then .called else .holds

/-- The tree below `id` to a depth, or whole. No path without repetition has more reasons than
`steps`, so that steps run out only where the whole tree has no end. -/
def grow (g : Graph) : Nat → Option Nat → ReasonId → Except GraphError Tree
  | 0, _, id => .error (.endless id)
  | steps + 1, depth, id => do
    let node ← g.get id
    if depth = some 0 then
      return .node id (!node.supporters.isEmpty) []
    else
      let children ← g.children id
      let branches ← children.mapM fun child => do
        let tree ← g.grow steps (depth.map (· - 1)) child
        return (label node.calling? child, tree)
      return .node id false branches

/-- The tree that explains `id`: as far as `depth` reaches, or whole. -/
def tree (g : Graph) (id : ReasonId) (depth : Option Nat) : Except GraphError Tree :=
  g.grow (depth.getD g.size + 1) depth id

end Graph

end Because
