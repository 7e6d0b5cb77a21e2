/-!
# Blank characters

The characters with the Unicode property `White_Space`, the words of a text, and a text without
its outer blanks.
-/

namespace Because.Text

/-- The code points of the property `White_Space`, as closed ranges in increasing order. -/
def blankRanges : List (Nat × Nat) :=
  [(0x0009, 0x000D), (0x0020, 0x0020), (0x0085, 0x0085), (0x00A0, 0x00A0), (0x1680, 0x1680),
   (0x2000, 0x200A), (0x2028, 0x2029), (0x202F, 0x202F), (0x205F, 0x205F), (0x3000, 0x3000)]

/-- Whether `c` separates words. -/
def isBlank (c : Char) : Bool :=
  blankRanges.any fun range => range.1 ≤ c.toNat && c.toNat ≤ range.2

/-- The pieces between the characters that satisfy `p`, empty pieces included. -/
def piecesAt (p : Char → Bool) : List Char → List (List Char)
  | [] => [[]]
  | c :: rest =>
    if p c then [] :: piecesAt p rest
    else match piecesAt p rest with
      | [] => [[c]]
      | piece :: pieces => (c :: piece) :: pieces

/-- The longest blank-free stretches of a text, from left to right. -/
def words (text : String) : List String :=
  ((piecesAt isBlank text.toList).filter (!·.isEmpty)).map String.ofList

/-- The lines of a text: what lies between its line feeds. -/
def lines (text : String) : List String :=
  (piecesAt (· == '\n') text.toList).map String.ofList

/-- `chars` without its last characters that satisfy `p`. -/
def dropEndWhile (p : Char → Bool) (chars : List Char) : List Char :=
  (chars.reverse.dropWhile p).reverse

/-- A text without the blanks at its two ends. -/
def trim (text : String) : String :=
  String.ofList (dropEndWhile isBlank (text.toList.dropWhile isBlank))

end Because.Text
