/-!
# Decimal numerals

Reading of whole numbers written with ASCII digits. A numeral is an optional sign followed by at
least one digit and nothing else; a numeral outside the range asked for is no number.
-/

namespace Because.Text

/-- The value of a digit. -/
def digitValue (c : Char) : Nat := c.toNat - '0'.toNat

/-- The number that a sequence of decimal digits denotes. -/
def digitsValue (digits : List Char) : Nat :=
  digits.foldl (fun value c => 10 * value + digitValue c) 0

/-- The value of a text of one or more ASCII digits. -/
def readDigits? (chars : List Char) : Option Nat :=
  if !chars.isEmpty && chars.all Char.isDigit then some (digitsValue chars) else none

/-- The natural number below `bound` that a numeral denotes; its only sign is `+`. -/
def readNat? (bound : Nat) (text : String) : Option Nat :=
  let digits := match text.toList with
    | '+' :: rest => rest
    | chars => chars
  (readDigits? digits).filter (· < bound)

/-- The least number of 64 bits. -/
def minInt64 : Int := -9223372036854775808

/-- The greatest number of 64 bits. -/
def maxInt64 : Int := 9223372036854775807

/-- Whether an integer has 64 bits. -/
def isInt64 (n : Int) : Bool := minInt64 ≤ n && n ≤ maxInt64

/-- The integer of 64 bits that a numeral denotes; its sign is `+` or `-`. -/
def readInt64? (text : String) : Option Int :=
  let value := match text.toList with
    | '+' :: rest => (readDigits? rest).map Int.ofNat
    | '-' :: rest => (readDigits? rest).map fun n => -Int.ofNat n
    | chars => (readDigits? chars).map Int.ofNat
  value.filter isInt64

/-- The numbers of reasons have 32 bits. -/
def idBound : Nat := 4294967296

/-- Depths have 64 bits. -/
def depthBound : Nat := 18446744073709551616

end Because.Text
