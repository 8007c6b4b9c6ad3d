import ObjectModel.Script.Dictionary
import ObjectModel.Script.Form
import ObjectModel.Instantiation
import ObjectModel.Session

/-!
# The workspace of a script

What a script keeps besides the objects of the model: frames of variables, functions, bound
methods, lists, tuples, dictionaries, iterators and exceptions. The records of the model are never
changed behind its back: what a script gives to an object of the model, or takes away from it, is
kept here, and such an object is then asked for everything.
-/

namespace ObjectModel.Script

/-- The variables of one call, or of the whole script. -/
structure Frame where
  vars : Table String Value
  parent : Option (Ref .frame)
  deriving Inhabited

/-- A function together with the frame in which it was made. -/
structure Closure where
  params : List Param
  body : Expr
  frame : Ref .frame
  deriving Inhabited

/-- What a bound method calls: a declared function, an operator hook, or an operation of its own
that an object of the model has. -/
inductive Callee where
  | function (f : Value)
  | hook (name : String)
  | own (name : String)
  deriving DecidableEq

structure BoundMethod where
  receiver : Value
  callee : Callee

instance : Inhabited BoundMethod := ⟨⟨.null, .function .null⟩⟩

/-- What is read by keys: a dictionary, or the table of a declaration, which cannot be changed. -/
inductive TableRef where
  | own (r : Ref .dict)
  | entries (d : Ref .declaration)
  deriving DecidableEq

/-- Where an iteration stands. -/
inductive Cursor where
  | list (r : Ref .list) (i : Nat)
  | tuple (r : Ref .tuple) (i : Nat)
  /-- The characters to come, and whether the whole text is ASCII. -/
  | text (s : List Char) (ascii : Bool)
  /-- The keys of a table from a place on, the size that the table has to keep, and how many keys
  are still to come. -/
  | keys (t : TableRef) (i size left : Nat)
  /-- The keys of a table that did not keep its size. -/
  | spoiled
  /-- Items by number, from a value that has a hook for them. -/
  | items (target : Value) (i : Nat)
  /-- Finished; the name of the type stays. -/
  | finished (typeName : String)
  deriving Inhabited

/-- A fault that a program has got hold of, or made, with what it was made from. -/
structure Exception where
  kind : ErrorKind
  args : Ref .tuple
  /-- Whether the fault has a message. -/
  isTold : Bool
  /-- What else is known of the fault. -/
  details : Table String Value
  deriving Inhabited

/-- Whether a value is compared, coded and shown without asking anyone. -/
def isSimple : Value → Bool
  | .null | .notImplemented | .bool _ | .int _ | .float _ _ | .complex _ _ | .text _ | .function _
  | .iterator _ | .memberKind _ | .errorKind _ | .stateType _ | .facadeType _ | .foreign _ => true
  | _ => false

/-- Whether a value is compared and coded as a key without asking anyone: a simple one, or a thing
that is equal to itself alone. -/
def isPlainKey : Value → Bool
  | .cls _ | .catalog _ | .builder _ | .exception _ => true
  | v => isSimple v

/-- Whether a definition tells by itself what it is called and what a name stands for. -/
def isSimpleDefinition (r : Definition) : Bool :=
  r.name.isText && (r.parent = .null || r.parent.isText)
    && [r.statics, r.privates, r.publics, r.operators].all
      (fun t => t.keys.all (fun k => isSimple k.toValue))

/-- A class with its definition, and whether that tells by itself what it is. -/
structure ClassEntry where
  cls : Ref .cls
  definition : Ref .definition
  isSimple : Bool

def classEntry (h : Heap) (c : Ref .cls) : ClassEntry :=
  let d := (h.classes.get c).definition
  ⟨c, d, isSimpleDefinition (h.definition d)⟩

structure Workspace where
  frames : Store .frame Frame
  functions : Store .function Closure
  methods : Store .method BoundMethod
  lists : Store .list (Array Value)
  tuples : Store .tuple (Array Value)
  dicts : Store .dict Dict
  iterators : Store .iterator Cursor
  exceptions : Store .exception Exception
  /-- Attributes that were given to things. -/
  given : List (Value × Table String Value)
  /-- Attributes that things have lost. -/
  lost : List (Value × String)
  /-- Fields, and keys written from outside, whose names the record of the definition still takes
  for static members. -/
  strays : List ((Value × String) × Value)
  /-- How many numbers with a fraction were computed. -/
  computed : Nat
  /-- What the demonstration defines its classes by, if not by the built-in greeters. -/
  greeters : Option Expr
  /-- The things that are being shown. -/
  showing : List Value

namespace Workspace

/-- The frame of the script itself. -/
def rootFrame : Ref .frame := ⟨0⟩

def initial : Workspace where
  frames := Store.empty.push default
  functions := .empty
  methods := .empty
  lists := .empty
  tuples := .empty
  dicts := .empty
  iterators := .empty
  exceptions := .empty
  given := []
  lost := []
  strays := []
  computed := 0
  greeters := none
  showing := []

instance : Inhabited Workspace := ⟨initial⟩

/-- Look a name up in a frame and in the frames around it. An outer frame is older. -/
def lookupWithin (w : Workspace) (name : String) : Nat → Ref .frame → Option Value
  | steps, r =>
    let f := w.frames.get r
    match f.vars.find? name with
    | some v => some v
    | none =>
      match steps, f.parent with
      | steps + 1, some p => w.lookupWithin name steps p
      | _, _ => none

def lookup (w : Workspace) (name : String) (r : Ref .frame) : Option Value :=
  w.lookupWithin name r.index r

def bind (w : Workspace) (r : Ref .frame) (name : String) (v : Value) : Workspace :=
  { w with frames := w.frames.modify r (fun f => { f with vars := f.vars.insert name v }) }

/-- The attributes that were given to a thing. -/
def givenTo (w : Workspace) (v : Value) : Table String Value := (w.given.lookup v).getD .empty

def setGiven (w : Workspace) (v : Value) (t : Table String Value) : Workspace :=
  { w with given := (v, t) :: w.given.filter (fun e => !(e.1 == v)) }

def hasLost (w : Workspace) (v : Value) (name : String) : Bool := w.lost.contains (v, name)

/-- Whether a thing was given attributes or lost some, so that its record alone does not tell what
it has. -/
def isAltered (w : Workspace) (v : Value) : Bool :=
  !(w.givenTo v).entries.isEmpty || w.lost.any (fun e => e.1 == v)

/-- What stands in for the definition of a class: what the class was made from, or the definition
itself if it was altered or does not tell by itself what it is. -/
def standInFor? (w : Workspace) (e : ClassEntry) : Option Value :=
  match (w.givenTo (.cls e.cls)).find? "definition" with
  | some v => some v
  | none =>
    if w.isAltered (.definition e.definition) || !e.isSimple then some (.definition e.definition)
    else none

def stray? (w : Workspace) (v : Value) (key : String) : Option Value := w.strays.lookup (v, key)

def hasStrays (w : Workspace) (v : Value) : Bool := w.strays.any (fun e => e.1.1 == v)

def withoutStray (w : Workspace) (v : Value) (key : String) : Workspace :=
  { w with strays := w.strays.filter (fun e => !(e.1 == (v, key))) }

def withStray (w : Workspace) (v : Value) (key : String) (new : Value) : Workspace :=
  let w := w.withoutStray v key
  { w with strays := ((v, key), new) :: w.strays }

end Workspace

/-- The steps of scripts, whose sessions end with an answer. -/
abbrev Prog : Type → Type := Session Workspace Form

/-- See something of the workspace, without holding on to the rest. -/
def viewing {α : Type} (f : Workspace → α) : Prog α := .asking .peek f

/-- See something of the heap, without holding on to the rest. -/
def seeing {α : Type} (f : Heap → α) : Prog α := .asking .look f

/-- Whether a thing was altered. -/
def isAltered (v : Value) : Prog Bool := viewing (fun w => w.isAltered v)

def hasLost (v : Value) (name : String) : Prog Bool := viewing (fun w => w.hasLost v name)

def poke (f : Workspace → Workspace) : Prog Unit := ask (.poke f)

/-- Keep an attribute that is given to a thing. -/
def keepGiven (v : Value) (name : String) (new : Value) : Prog Unit :=
  poke (fun w => w.setGiven v ((w.givenTo v).insert name new))

def wrongType {α : Type} : Prog α := throw .wrongType

def noAttribute {α : Type} : Prog α := throw .noAttribute

def plainFault {α : Type} (k : ErrorKind) : Prog α := throw (.plain k)

def newFrame (f : Frame) : Prog (Ref .frame) := do
  let r ← viewing (fun w => w.frames.next)
  poke (fun w => { w with frames := w.frames.push f })
  return r

def newFunction (c : Closure) : Prog Value := do
  let r ← viewing (fun w => w.functions.next)
  poke (fun w => { w with functions := w.functions.push c })
  return .function r

def newMethod (m : BoundMethod) : Prog Value := do
  let r ← viewing (fun w => w.methods.next)
  poke (fun w => { w with methods := w.methods.push m })
  return .method r

def newList (vs : Array Value) : Prog Value := do
  let r ← viewing (fun w => w.lists.next)
  poke (fun w => { w with lists := w.lists.push vs })
  return .list r

def newTuple (vs : Array Value) : Prog Value := do
  let r ← viewing (fun w => w.tuples.next)
  poke (fun w => { w with tuples := w.tuples.push vs })
  return .tuple r

def newDict (d : Dict) : Prog (Ref .dict) := do
  let r ← viewing (fun w => w.dicts.next)
  poke (fun w => { w with dicts := w.dicts.push d })
  return r

def newIterator (c : Cursor) : Prog Value := do
  let r ← viewing (fun w => w.iterators.next)
  poke (fun w => { w with iterators := w.iterators.push c })
  return .iterator r

/-- What is known of a fault of some kind besides what it was made from. -/
def detailNames (k : ErrorKind) : List String :=
  if k.isA .attributeError then ["name", "obj"]
  else if k.isA .nameError then ["name"]
  else if k = .stopIteration then ["value"]
  else if k = .importError then ["msg", "name", "path"]
  else if k = .osError then ["errno", "strerror", "filename", "filename2"]
  else []

/-- The detail that tells what a fault was made from, if one value was enough for it. -/
def detailOfArgument? (k : ErrorKind) (args : Array Value) : Option String :=
  if k = .stopIteration && 0 < args.size then some "value"
  else if k = .importError && args.size = 1 then some "msg"
  else none

def newException (kind : ErrorKind) (args : Array Value) (isTold : Bool) :
    Prog (Ref .exception) := do
  let argsRef ← viewing (fun w => w.tuples.next)
  poke (fun w => { w with tuples := w.tuples.push args })
  let blank := Table.ofList ((detailNames kind).map (fun name => (name, Value.null)))
  let details := match detailOfArgument? kind args with
    | some name => blank.insert name (args.getD 0 .null)
    | none => blank
  let r ← viewing (fun w => w.exceptions.next)
  poke (fun w => { w with exceptions := w.exceptions.push ⟨kind, argsRef, isTold, details⟩ })
  return r

def exceptionOf (r : Ref .exception) : Prog Exception := viewing (fun w => w.exceptions.get r)

def changeException (r : Ref .exception) (f : Exception → Exception) : Prog Unit :=
  poke (fun w => { w with exceptions := w.exceptions.modify r f })

/-- Fail with a fault of plain values that was made from something. -/
def faultFrom {α : Type} (k : ErrorKind) (arg : Value) : Prog α := do
  throw (.held k (← newException k #[arg] false))

/-- Fail for want of a key. -/
def missingKey {α : Type} (key : Value) : Prog α := faultFrom .keyError key

/-- The number of the next number that is computed. -/
def nextSerial : Prog Nat := do
  let n ← viewing (fun w => w.computed)
  poke (fun w => { w with computed := n + 1 })
  return n

def newNumber (x : Binary64) : Prog Value := do return .float x (← nextSerial)

def newComplex (z : ComplexNumber) : Prog Value := do return .complex z (← nextSerial)

def listItems (r : Ref .list) : Prog (Array Value) := viewing (fun w => w.lists.get r)

def tupleItems (r : Ref .tuple) : Prog (Array Value) := viewing (fun w => w.tuples.get r)

def changeList (r : Ref .list) (f : Array Value → Array Value) : Prog Unit :=
  poke (fun w => { w with lists := w.lists.modify r f })

def changeDict (r : Ref .dict) (f : Dict → Dict) : Prog Unit :=
  poke (fun w => { w with dicts := w.dicts.modify r f })

def setCursor (r : Ref .iterator) (c : Cursor) : Prog Unit :=
  poke (fun w => { w with iterators := w.iterators.set r c })

/-- Whether two values are the same thing. -/
def isSame (v w : Value) : Bool := decide (v = w)

/-- A bound on loops, which is never reached. -/
def loopBound : Nat := powerOfTwo 40

end ObjectModel.Script
