/-!
# Splitting at a separator

The parts of a text between the occurrences of a separator, which are sought from left to right
and do not overlap. The empty separator occurs before, between and after all characters.
-/

namespace Because.Text

/-- The parts of a text between the occurrences of a nonempty separator. The first `skip`
characters are the rest of an occurrence already found. -/
def cutAt (separator : List Char) : Nat → List Char → List (List Char)
  | _, [] => [[]]
  | skip + 1, _ :: rest => cutAt separator skip rest
  | 0, c :: rest =>
    if separator.isPrefixOf (c :: rest) then
      [] :: cutAt separator (separator.length - 1) rest
    else match cutAt separator 0 rest with
      | [] => [[c]]
      | part :: parts => (c :: part) :: parts

/-- The parts of a list of characters at a separator of any length. -/
def splitChars (separator text : List Char) : List (List Char) :=
  if separator.isEmpty then [] :: (text.map fun c => [c]) ++ [[]]
  else cutAt separator 0 text

/-- The parts of `text` at `separator`. -/
def split (separator text : String) : List String :=
  (splitChars separator.toList text.toList).map String.ofList

/-- `text` without `start`, if it starts so. -/
def dropStart? (start text : String) : Option String :=
  if start.toList.isPrefixOf text.toList then
    some (String.ofList (text.toList.drop start.length))
  else none

end Because.Text
