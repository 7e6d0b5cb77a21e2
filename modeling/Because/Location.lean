/-!
# Locations

Where in a program's text a node was written. Line 0 belongs to no text: it marks what the
session itself provides.
-/

namespace Because

/-- A line of a file. -/
structure Location where
  file : String
  line : Nat
  deriving DecidableEq, Inhabited

namespace Location

/-- The location of everything built in. -/
def builtin : Location := ⟨"<builtin>", 0⟩

/-- Line 0 is nobody's line. -/
def isBuiltin (loc : Location) : Bool := loc.line == 0

/-- How reasons quote a location. -/
def text (loc : Location) : String :=
  if loc.isBuiltin then "builtin" else s!"line {loc.line}"

/-- How a trace of calls quotes a location. -/
def fileAndLine (loc : Location) : String := s!"{loc.file}:{loc.line}"

end Location

end Because
