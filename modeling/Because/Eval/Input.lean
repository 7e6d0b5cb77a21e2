import Because.Eval.Object
import Because.Native.Number
import Because.Text.Blank

/-!
# Questions and numerals
-/

namespace Because

/-- The text of a String object, or the text that reasons quote of any other value. -/
def Session.shownText (s : Session) (value : Value) : String :=
  match s.textOf? value with
  | some (content, _) => content
  | none => s.render value

/-- The String object for what was entered at a prompt, if a line was there to be read. -/
def answerOf (inner : Inner) (prompt : String) (why : ReasonId) :
    Option String → Eval Justified
  | none => Action.fail (.because .inputExhausted why)
  | some entered => do
    let answered ← Action.text s!"You entered '{entered}' when asked '{prompt}'"
    let unknown ← Action.unknown
    newObject inner "String" [⟨.str entered, unknown⟩] answered

/-- Print a prompt, unless it is empty, and read a line. -/
def askFor (inner : Inner) (prompt : String) (why : ReasonId) : Eval Justified := do
  if !prompt.isEmpty then
    Action.print prompt
  let line ← Action.readLine
  answerOf inner prompt why line

/-- The number that a text denotes, blanks at its ends left aside. -/
def parseNumber? (content : String) : Option Int := Text.readInt64? (Text.trim content)

/-- A Num for the number that a String object denotes; for anything else, a Num without one. -/
def evalInt (inner : Inner) (expr : Expr) (why : ReasonId) : Eval Justified := do
  let input ← inner.eval expr why
  let found ← Action.ask (·.textOf? input.value)
  let number := found.bind fun content => parseNumber? content.1
  let unknown ← Action.unknown
  newObject inner "Num" [⟨Native.payload number, unknown⟩] why

end Because
