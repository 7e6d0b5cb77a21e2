import Because.Program.Basic

/-!
# Programs as text

The one-line text of an expression or a statement. Reasons quote programs in this form.
-/

namespace Because

/-- The text of a truth value. -/
def truthText (value : Bool) : String := if value then "True" else "False"

/-- The text of a literal. -/
def Literal.text : Literal → String
  | .none => "None"
  | .bool value => truthText value
  | .int value => toString value
  | .str text => text

mutual

/-- The text of an expression. -/
def Expr.text : Expr → String
  | .const _ literal => literal.text
  | .get _ name => s!"get {name}"
  | .property _ owner name => s!"{owner.text}.{name}"
  | .new _ className args => s!"new {className}({Expr.argsText args})"
  | .eq _ left right => s!"{left.text}=={right.text}"
  | .not _ inner => s!"!({inner.text})"
  | .isNone _ inner => s!"({inner.text} == None)"
  | .plus _ operands | .concat _ operands => Expr.sumText operands
  | .call _ function args => s!"call {function}({Expr.argsText args})"
  | .methodCall _ object method args => s!"({object.text}).{method}({Expr.argsText args})"
  | .selfCall _ method args | .superCall _ method args =>
    s!"(get {selfName}).{method}({Expr.argsText args})"
  | .withId _ inner => s!"WithId({inner.text})"
  | .range _ low high => s!"range({low.text},{high.text})"
  | .ask _ => "ask()"
  | .askWith _ prompt => s!"ask({prompt.text})"
  | .int _ inner => s!"int({inner.text})"

/-- The texts of arguments, with commas between them. -/
def Expr.argsText : List Expr → String
  | [] => ""
  | [last] => last.text
  | first :: rest => first.text ++ ", " ++ Expr.argsText rest

/-- The texts of operands, with plus signs between them. -/
def Expr.sumText : List Expr → String
  | [] => ""
  | [last] => last.text
  | first :: rest => first.text ++ "+" ++ Expr.sumText rest

end

/-- The text of a statement. Bodies and branches are left out. -/
def Stmt.text : Stmt → String
  | .ifElse _ condition _ _ => condition.text
  | .forEach _ name values _ => s!"for {name} in {values.text}"
  | .whileDo _ condition _ => s!"while ({condition.text})"
  | .declare _ name value | .assign _ name value => s!"{name}={value.text}"
  | .ret _ value => s!"return={value.text}"
  | .declareFunction _ decl => s!"def {decl.name}"
  | .declareClass _ decl => s!"declare class {decl.name}"
  | .effect _ value => value.text
  | .setProperty _ owner name value => s!"{owner.text}.{name}={value.text}"
  | .print _ value => s!"Print({value.text})"
  | .fullExplain _ value => s!"FullExplain({value.text})"
  | .shortExplain _ value depth => s!"ShortExplain({value.text}, {depth.text})"
  | .raise _ message => s!"raise Exception({message})"
  | .invokeNative _ method _ => s!"native {method}"

end Because
