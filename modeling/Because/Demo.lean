import Because.Program.Build

/-!
# Built-in programs

Five short programs that show what reasons look like.
-/

namespace Because

/-- A program that comes with the command. -/
structure Demo where
  name : String
  summary : String
  program : Program
  deriving Inhabited

namespace Demo

/-- A line of the file that holds the programs. -/
def line (number : Nat) : Location := ⟨"compiler/ravelc/src/demos.rs", number⟩

def printText (number : Nat) (text : String) : Stmt :=
  .print (line number) (.string (line number) text)

/-- Constructors and methods that call those of the parent. -/
def inheritance : Program :=
  [.declareClass (line 52) ((ClassDecl.start "TestGrandParent")
      |>.init (line 53) [] [printText 55 "running init in TestGrandParent class"]
      |>.method (line 58) "talk" [] [printText 59 "running talk in TestGrandParent class"]),
   .declareClass (line 62) ((ClassDecl.start "TestParent")
      |>.inherit "TestGrandParent"
      |>.init (line 64) []
        [printText 67 "running init in TestParent class",
         .effect (line 68) (.superCall (line 68) initName []),
         .effect (line 69) (.selfCall (line 69) "talk" [])]
      |>.method (line 73) "talk" []
        [printText 75 "running talk in TestParent class",
         .effect (line 76) (.superCall (line 76) "talk" [])]),
   .declareClass (line 80) ((ClassDecl.start "TestChild")
      |>.inherit "TestParent"
      |>.init (line 82) []
        [printText 85 "running init in TestChild class",
         .effect (line 86) (.superCall (line 86) initName [])]
      |>.method (line 90) "talk" []
        [printText 92 "running talk in TestChild class",
         .effect (line 93) (.superCall (line 93) "talk" [])]),
   .declare (line 97) "testChild" (.new (line 97) "TestChild" [])]

/-- A field that three method calls change. -/
def counter : Program :=
  [.declareClass (line 103) ((ClassDecl.start "Counter")
      |>.withFields ["n"]
      |>.init (line 105) [] [.setSelfProperty (line 105) "n" (.num (line 105) 0)]
      |>.method (line 107) "increment" []
        [.setSelfProperty (line 108) "n"
          (.plus (line 108) [.selfProperty (line 108) "n", .num (line 108) 1])]),
   .declare (line 111) "counter" (.new (line 111) "Counter" []),
   .forRange (line 112) "i" (.num (line 114) 0) (.num (line 115) 3)
     [.effect (line 116) (.methodCall (line 116) (.get (line 116) "counter") "increment" [])],
   .printWithId (line 118) (.property (line 118) (.get (line 118) "counter") "n")]

/-- Arguments of a constructor that are copied into fields. -/
def args : Program :=
  [.declareClass (line 124) ((ClassDecl.start "ArgTester")
      |>.withFields ["key1", "key2"]
      |>.init (line 126) ["key2"]
        [.print (line 126) (.selfProperty (line 126) "key1"),
         .print (line 126) (.selfProperty (line 126) "key2")]),
   .declare (line 128) "a" (.new (line 128) "ArgTester" [.string (line 128) "abcd"])]

/-- A branch that the comparison of two texts decides. -/
def equality : Program :=
  [.declare (line 134) "a" (.string (line 134) "one"),
   .declare (line 135) "b" (.string (line 135) "two"),
   .declare (line 136) "result" (.string (line 136) "undecided"),
   .ifElse (line 137)
     (.methodCall (line 137) (.get (line 137) "a") "equals" [.get (line 137) "b"])
     [.assign (line 138) "result" (.string (line 138) "equal")]
     [.assign (line 139) "result" (.string (line 139) "different")],
   .printWithId (line 141) (.get (line 141) "result"),
   .shortExplain (line 142) (.get (line 142) "result") (.num (line 142) 2)]

/-- The distinct words of a text. -/
def lists : Program :=
  [.declare (line 148) "words"
     (.methodCall (line 150) (.string (line 150) "to be or not to be") "split"
       [.string (line 150) " "]),
   .declare (line 152) "seen" (.new (line 152) "Dict" []),
   .declare (line 153) "unique" (.new (line 153) "List" []),
   .forEach (line 154) "word" (.get (line 156) "words")
     [.ifElse (line 157)
       (.not (line 157) (.methodCall (line 157) (.get (line 157) "seen") "containsKey"
         [.get (line 157) "word"]))
       [.effect (line 159) (.methodCall (line 159) (.get (line 159) "seen") "put"
          [.get (line 159) "word", .boolean (line 159) true]),
        .effect (line 160) (.methodCall (line 160) (.get (line 160) "unique") "append"
          [.get (line 160) "word"])]
       []],
   .print (line 164) (.concat (line 164)
     [.string (line 165) "unique words: ",
      .methodCall (line 166) (.get (line 166) "unique") "toString" []]),
   .printWithId (line 168) (.methodCall (line 168) (.get (line 168) "unique") "getLength" [])]

/-- The demonstrations, in the order in which they are listed. -/
def all : List Demo :=
  [⟨"inheritance", "constructors and methods chained through super", inheritance⟩,
   ⟨"counter", "a field updated by three method calls", counter⟩,
   ⟨"args", "constructor arguments copied into fields", args⟩,
   ⟨"equality", "a branch decided by comparing two strings", equality⟩,
   ⟨"lists", "splitting text and collecting unique words", lists⟩]

/-- The demonstration of a name. -/
def find? (name : String) : Option Demo := all.find? (·.name == name)

end Demo

end Because
