import Because.Location

/-!
# The graph of reasons

A reason says why something holds. Reasons are numbered in the order in which they are recorded,
and a reason may rest only on reasons recorded before it, so that the graph has no cycle along
its supporters. Nothing is ever removed; the only later change to a reason is that it
may be hidden from explanations.
-/

namespace Because

/-- The number of a reason. -/
abbrev ReasonId := Nat

/-- What a reason asserts. -/
inductive Kind where
  | text (message : String)
  | unknown
  | conj (description : String)
  | equal (item value : String)
  /-- A name got a value: `calling` is why it was asked for, `values` why it is what it is. -/
  | full (name value : String) (calling : ReasonId) (values : List ReasonId)
  deriving DecidableEq, Inhabited

/-- A recorded reason. -/
structure Node where
  id : ReasonId
  kind : Kind
  supporters : List ReasonId
  /-- Explanations show the reason itself; otherwise its causes take its place. -/
  shown : Bool
  location : Option Location
  deriving DecidableEq, Inhabited

/-- Why a reason could not be recorded or explained. -/
inductive GraphError where
  /-- A supporter is not older than the reason that it should support. -/
  | lateSupporter (supporter supportee : ReasonId)
  | unregistered (id : ReasonId)
  /-- An unbounded explanation would never end. -/
  | endless (id : ReasonId)
  deriving DecidableEq, Inhabited

/-- What the report says of an error. -/
def GraphError.message : GraphError → String
  | .lateSupporter supporter supportee =>
    s!"justification #{supporter} cannot support #{supportee}: supporters must be created first"
  | .unregistered id => s!"no justification with id {id}"
  | .endless id => s!"the explanation of justification #{id} has no end"

namespace Node

/-- A name with a space is put in parentheses, so that a property of it stays readable. -/
def variableText (name : String) : String :=
  if name.toList.contains ' ' then s!"({name})" else name

/-- The line that a located reason starts with. -/
def place (node : Node) : String :=
  match node.location with
  | some loc => if loc.isBuiltin then "" else s!"[{loc.text}]: "
  | none => ""

/-- How a node is described in explanations. -/
def describe (node : Node) : String :=
  match node.kind with
  | .text message => message
  | .unknown => "Idk."
  | .conj description => node.place ++ description
  | .equal item value => s!"{item} equals \"{value}\""
  | .full name value _ _ => s!"{node.place}{variableText name} = {value}"

/-- The mark that lists of reasons put before a reason. -/
def mark (node : Node) : String := s!"- (#{node.id}) "

def listed (node : Node) : String := node.mark ++ node.describe

/-- The causes that explanations follow. A hidden record passes on why its value is what it is,
and hides why it was asked for. -/
def followed (node : Node) : List ReasonId :=
  match node.kind with
  | .full _ _ _ values => if node.shown then node.supporters else values
  | _ => node.supporters

/-- The reason for which a record was asked for. -/
def calling? (node : Node) : Option ReasonId :=
  match node.kind with
  | .full _ _ calling _ => some calling
  | _ => none

end Node

/-- All reasons of one session, each at the place that its number gives. -/
structure Graph where
  nodes : Array Node := #[]
  deriving Inhabited

namespace Graph

/-- The graph without reasons. -/
def empty : Graph := {}

/-- The number of reasons, which is also the number that the next one gets. -/
@[inline] def size (g : Graph) : Nat := g.nodes.size

/-- The node of a reason. -/
def get (g : Graph) (id : ReasonId) : Except GraphError Node :=
  match g.nodes[id]? with
  | some node => .ok node
  | none => .error (.unregistered id)

/-- The first supporter that is not recorded yet. -/
def firstLate? (g : Graph) (supporters : List ReasonId) : Option ReasonId :=
  supporters.find? fun supporter => g.size ≤ supporter

/-- The location of a reason: its own, or that of its first located supporter. -/
def locate (g : Graph) (supporters : List ReasonId) (location : Option Location) :
    Option Location :=
  location <|> supporters.findSome? fun supporter =>
    (g.nodes[supporter]?).bind Node.location

/-- Record a reason without looking at the ages of its supporters. -/
@[inline] def push (g : Graph) (kind : Kind) (supporters : List ReasonId)
    (location : Option Location) : Graph :=
  { nodes := g.nodes.push ⟨g.nodes.size, kind, supporters, true, location⟩ }

/-- Record a reason. Its supporters have to be older than it, and without a location of its own
it takes that of its first located supporter. -/
@[inline] def add (g : Graph) (kind : Kind) (supporters : List ReasonId)
    (location : Option Location) :
    Except GraphError (ReasonId × Graph) :=
  match g.firstLate? supporters with
  | some late => .error (.lateSupporter late g.size)
  | none => .ok (g.size, g.push kind supporters (g.locate supporters location))

/-- Record a text. -/
@[inline] def text (g : Graph) (message : String) : ReasonId × Graph :=
  (g.size, g.push (.text message) [] none)

/-- Record that a reason is unknown. -/
@[inline] def unknown (g : Graph) : ReasonId × Graph :=
  (g.size, g.push .unknown [] none)

/-- Record a conjunction of reasons. -/
def conj (g : Graph) (description : String) (supporters : List ReasonId) :
    Except GraphError (ReasonId × Graph) :=
  g.add (.conj description) supporters none

/-- Record a description that all of `supporters` bring about, made at a location. -/
def conjAt (g : Graph) (description : String) (supporters : List ReasonId)
    (location : Location) : Except GraphError (ReasonId × Graph) :=
  g.add (.conj description) supporters (some location)

/-- Record that an item equals a value. -/
def equal (g : Graph) (item value : String) (supporter : ReasonId) :
    Except GraphError (ReasonId × Graph) :=
  g.add (.equal item value) [supporter] none

/-- Record that a name got a value at a location, asked for because of `calling`, and being what
it is because of `values`. -/
def full (g : Graph) (name value : String) (location : Location) (calling : ReasonId)
    (values : List ReasonId) : Except GraphError (ReasonId × Graph) :=
  g.add (.full name value calling values) (calling :: values) (some location)

/-- Hide a reason from explanations, whether or not it is recorded. -/
@[inline] def hideAt (g : Graph) (id : ReasonId) : Graph :=
  { nodes := g.nodes.modify id fun node => { node with shown := false } }

/-- Hide a reason from explanations; its causes are shown in its place. -/
@[inline] def hide (g : Graph) (id : ReasonId) : Except GraphError Graph :=
  if id < g.size then .ok (g.hideAt id) else .error (.unregistered id)

end Graph

end Because
