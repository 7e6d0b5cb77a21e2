import Because.Text.Blank

/-!
# Lines of input

Input arrives as bytes. A line ends at a line feed or at the end of the input, and counts only if
it has a byte; a line that is not UTF-8 cannot be read.
-/

namespace Because.Text

/-- A line of input as it was read; `none` stands for one that is not UTF-8. -/
abbrev InputLine := Option String

/-- The stretches of bytes that end with a line feed or with the input. -/
def byteLines : List UInt8 → List (List UInt8)
  | [] => []
  | b :: rest =>
    if b == 10 then [b] :: byteLines rest
    else match byteLines rest with
      | [] => [[b]]
      | line :: lines => (b :: line) :: lines

/-- The text of a line without the carriage returns and line feeds at its end. -/
def decodeLine (bytes : List UInt8) : InputLine :=
  (String.fromUTF8? (ByteArray.mk bytes.toArray)).map fun text =>
    String.ofList (dropEndWhile (fun c => c == '\r' || c == '\n') text.toList)

/-- The lines of a stretch of bytes. -/
def inputLines (bytes : ByteArray) : List InputLine :=
  (byteLines bytes.toList).map decodeLine

end Because.Text
