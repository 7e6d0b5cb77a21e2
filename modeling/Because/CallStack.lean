import Because.Failure
import Because.Value

/-!
# The stack of calls

The calls in progress, with a limit on their number.
-/

namespace Because

/-- A call in progress. -/
structure Frame where
  name : String
  /-- Where the called function is declared. -/
  location : Option Location
  /-- The class that defines the running method. -/
  owner : Option ClassId
  deriving DecidableEq, Inhabited

/-- The calls in progress, the latest first, and how many there may be. -/
structure CallStack where
  frames : List Frame := []
  limit : Option Nat := none
  deriving DecidableEq, Inhabited

namespace CallStack

/-- How many calls are in progress. -/
def depth (calls : CallStack) : Nat := calls.frames.length

/-- Whether no further call may begin. -/
def isFull (calls : CallStack) : Bool :=
  match calls.limit with
  | some limit => limit ≤ calls.depth
  | none => false

/-- Begin a call, whether or not there is room for it. -/
def enter (calls : CallStack) (frame : Frame) : CallStack :=
  { calls with frames := frame :: calls.frames }

/-- Begin a call, unless the limit is reached. -/
def push (calls : CallStack) (frame : Frame) : Except Fault CallStack :=
  if calls.isFull then .error (.recursionLimit (calls.limit.getD 0)) else .ok (calls.enter frame)

/-- The newest call has ended. -/
def pop (calls : CallStack) : CallStack := { calls with frames := calls.frames.tail }

/-- The class that defines the running method. -/
def owner? (calls : CallStack) : Option ClassId := calls.frames.head?.bind Frame.owner

/-- The calls in progress as a failure reports them. -/
def trace (calls : CallStack) : Trace :=
  ⟨calls.frames.map fun frame => ⟨frame.name, frame.location⟩⟩

/-- Add the trace to a failure. One that comes from a deeper call keeps its own, and outside of
all calls there is none. -/
def attach (calls : CallStack) (failure : Failure) : Failure :=
  if failure.trace.isSome || calls.frames.isEmpty then failure
  else failure.withTrace calls.trace

end CallStack

end Because
