import Because.Eval.Call
import Because.Native.Basic

/-!
# Classes and objects

The declaration of classes and the construction of objects. The method table of a class starts
as that of its parent, so that a look-up never climbs the hierarchy. A new object gets, in this
order, its state if it has a built-in class above it, its fields, its tag, and a call of its
constructor.
-/

namespace Because

/-- The property that tags an object with its class. -/
def classField : String := "__class__"

/-- Keep a function as a program declares it. -/
def defineFunction (decl : Function) (owner : Option ClassId) : Eval FunctionId :=
  Action.define ⟨decl.name, decl.params, decl.body, owner, decl.loc⟩

/-- Declare the methods of a class one after the other. -/
def declareMethods (id : ClassId) (implScope : ScopeId) : List Function → Eval Unit
  | [] => return
  | method :: rest => do
    let why ← Action.text s!"def {method.name} is in my program"
    let function ← defineFunction method (some id)
    Action.declare implScope method.name ⟨.functionRef function, why⟩
    Action.setMethod id method.name function
    declareMethods id implScope rest

/-- The parent that a declaration names. -/
def findParent (decl : Class) (why : ReasonId) : Eval (Option ClassId) := do
  match decl.parent with
  | none => return none
  | some name =>
    match ← Action.ask (·.lookupClass? name) with
    | some id => return some id
    | none => Action.fail (.because (.undefinedClass name) why)

/-- Declare a class in the global scope. -/
def declareClass (decl : Class) (why : ReasonId) : Eval Unit := do
  let parent ← findParent decl why
  let parentDef ← Action.ask fun s => parent.map s.classAt
  let parentScope := (parentDef.map ClassDef.implScope).getD Session.globalScope
  let implScope ← Action.newScope parentScope decl.name
  let id ← Action.defineClass
    { name := decl.name, parent, fields := decl.fields, implScope,
      methods := (parentDef.map ClassDef.methods).getD [],
      builtin := none, nativeBase := parentDef.bind ClassDef.nativeBase }
  Action.declare Session.globalScope decl.name ⟨.classRef id, why⟩
  declareMethods id implScope decl.methods

/-- Declare fields as None, one after the other. -/
def declareFields (object : ScopeId) : List String → Eval Unit
  | [] => return
  | field :: rest => do
    let default ← Action.text "The default value for a member variable is None"
    Action.declare object field (.none default)
    declareFields object rest

namespace Session

/-- The fields of the objects of a class, those of the topmost class first. -/
def allFields (s : Session) (id : ClassId) : List String :=
  (s.lineage id).reverse.flatMap fun ancestor => (s.classAt ancestor).fields

/-- The built-in class whose state the objects of a class have. -/
def nativeBuiltin? (s : Session) (id : ClassId) : Option Builtin :=
  (s.classAt id).nativeBase.bind fun base => (s.classAt base).builtin

end Session

/-- Record the class of an object among its properties. -/
def tagClass (object : ScopeId) (id : ClassId) : Eval Unit := do
  let why ← Action.text "This is the class of the object"
  Action.declare object classField ⟨.classRef id, why⟩

/-- Call the constructor of a class on a new object. Without one, arguments are welcome only if
a built-in constructor takes them. -/
def runConstructor (inner : Inner) (object : ScopeId) (id : ClassId) (args : List Justified)
    (nativeBacked : Bool) (why : ReasonId) : Eval Unit := do
  let classDef ← Action.ask (·.classAt id)
  match classDef.methods.get? initName with
  | none =>
    if args.isEmpty || nativeBacked then return
    else Action.fail (.because (.arityMismatch classDef.name 0 args.length) why)
  | some init =>
    let specified ← Action.text s!"my program specified a {classDef.name}"
    let _ ← inner.call init (⟨.object object, specified⟩ :: args) why

/-- Give a new object the state that the built-in class above it, if any, makes. -/
def attachHandle (object : ScopeId) (className : String) (builtin : Option Builtin)
    (args : List Justified) (why : ReasonId) : Eval Unit := do
  match builtin with
  | none => return
  | some builtin =>
    let handle ← (Native.construct builtin args).toEval className "new" why
    Action.setHandle object handle

/-- Prepare an object of a class that a program declares, up to and with its constructor. -/
def constructUser (inner : Inner) (object : ScopeId) (id : ClassId) (args : List Justified)
    (nativeBacked : Bool) (why : ReasonId) : Eval Unit := do
  declareFields object (← Action.ask (·.allFields id))
  tagClass object id
  runConstructor inner object id args nativeBacked why

/-- A new object as a value, which holds because of the call and all arguments. -/
def describeNew (object : ScopeId) (className : String) (args : List Justified) (why : ReasonId) :
    Eval Justified := do
  let given ← Action.renderAll args
  let made ← Action.conj s!"newObject {className}({given})" (why :: reasons args)
  return ⟨.object object, made⟩

/-- Make an object of the class with a name. -/
def newObject (inner : Inner) (className : String) (args : List Justified) (why : ReasonId) :
    Eval Justified := do
  match ← Action.ask (·.lookupClass? className) with
  | none => Action.fail (.because (.undefinedClass className) why)
  | some id =>
    let number ← Action.newObjectNumber
    let current ← Action.currentScope
    let object ← Action.newScope current s!"{className}@{number}"
    Action.setTag object ⟨number, id, none⟩
    let builtin ← Action.ask (·.nativeBuiltin? id)
    attachHandle object className builtin args why
    let classDef ← Action.ask (·.classAt id)
    if classDef.builtin.isSome then tagClass object id
    else constructUser inner object id args builtin.isSome why
    describeNew object className args why

/-- Make an object whose making is not worth explaining. -/
def newHiddenObject (inner : Inner) (className : String) (args : List Justified)
    (why : ReasonId) : Eval Justified := do
  let result ← newObject inner className args why
  Action.hide result.why
  return result

end Because
