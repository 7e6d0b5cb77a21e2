import Because.Graph.Basic

/-!
# The causes that an explanation lists

The children of a reason are its causes with every hidden cause replaced by that cause's own.
They are found by one depth-first walk that works off the reasons which are still pending. It
remembers what it has listed and which hidden reasons it has opened.
-/

namespace Because

namespace Graph

/-- What a walk has met: the children found so far, the latest first, and the hidden reasons
whose causes have become pending. -/
structure Walk where
  listed : List ReasonId := []
  opened : List ReasonId := []

/-- Work off the pending reasons, the next one first, up to a hidden reason that has not been
opened. This one is opened: what it passes on is pending from then on, ahead of all that has been,
and `onward` works it off. -/
def scan (g : Graph) (onward : List ReasonId → Walk → Except GraphError Walk) :
    List ReasonId → Walk → Except GraphError Walk
  | [], w => .ok w
  | next :: pending, w => do
    let node ← g.get next
    if node.shown then
      g.scan onward pending
        (if w.listed.contains next then w else { w with listed := next :: w.listed })
    else if w.opened.contains next then
      g.scan onward pending w
    else
      onward (node.followed ++ pending) { w with opened := next :: w.opened }

/-- Work off all pending reasons. `openings` bounds how many hidden reasons are opened on the way.
As each is opened once, one more than the number of reasons is enough. -/
def workOff (g : Graph) : Nat → List ReasonId → Walk → Except GraphError Walk
  | 0, _, w => .ok w
  | openings + 1, pending, w => g.scan (g.workOff openings) pending w

/-- The causes that an explanation of `id` lists, each once, in the order in which a depth-first
walk of the causes reaches them. -/
def children (g : Graph) (id : ReasonId) : Except GraphError (List ReasonId) := do
  let node ← g.get id
  let w ← g.workOff (g.size + 1) node.followed {}
  return w.listed.reverse

end Graph

end Because
