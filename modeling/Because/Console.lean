import Because.Text.Input

/-!
# The console of a session

Where a program prints, and the lines that wait to be read.
-/

namespace Because

/-- What has been printed and what is left to read. -/
structure Console where
  /-- A silent console forgets what is printed. -/
  silent : Bool := false
  printed : String := ""
  input : List Text.InputLine := []
  deriving Inhabited

namespace Console

/-- Print a text as it is. -/
@[inline] def print (console : Console) (text : String) : Console :=
  if console.silent then console else { console with printed := console.printed ++ text }

/-- Print a text and end the line. -/
def printLine (console : Console) (text : String) : Console :=
  console.print (text ++ "\n")

def clear (console : Console) : Console := { console with printed := "" }

/-- The next line, if there is one and it can be read. -/
def next? (console : Console) : Option String := console.input.head?.join

def advance (console : Console) : Console := { console with input := console.input.tail }

end Console

end Because
