import ObjectModel.Script.StandIns
import ObjectModel.Script.Faults

/-!
# Attributes

Reading, writing and deleting attributes by name. Facades, private states and class objects follow
the access rules of the object model; a method that is read is a new bound method. Special names
bypass the rules of reading: an instance answers to them with its operator hooks, and with what its
type has. Hooks that take over access never come from a dictionary in a class body; only a table of
another kind can bring them in, or a stand-in.
Catalogs, builders and definitions have attributes of their own, and like functions and exceptions
they can be given more. A declaration cannot be changed.
-/

namespace ObjectModel.Script

/-- The type of an instance, as it is seen through either view. -/
def typeOf? (h : Heap) : Value → Option Value
  | .state s => some (.stateType (h.stateClass s))
  | .facade f => some (.facadeType (h.facadeClass f))
  | _ => none

/-- What every instance has from its type, where no hook is in front of it. -/
def inherited? (h : Heap) (v : Value) : String → Option Value
  | "__class__" => typeOf? h v
  | "__doc__" => some .null
  | "__module__" => some (.text "pypie.runtime.operators")
  | _ => none

def specialAttribute (v : Value) (name : String) : Prog Value := do
  if ← Machine.hasHook v name then newMethod ⟨v, .hook name⟩
  else
    match ← seeing (fun h => inherited? h v name) with
    | some r => return r
    | none => noAttribute

/-- The attribute that holds the table of a section. -/
def sectionAttribute : Section → String
  | .statics => "statics"
  | .privates => "private_methods"
  | .publics => "public_methods"
  | .operators => "operators"

/-- Let the script have the table of classes of a catalog, which from then on is what the catalog
goes by. -/
def handOverClasses (c : Ref .catalog) : Prog Value := do
  let classes ← seeing (fun h => (h.catalogs.get c).classes.entries)
  let table ← newPlainDict (classes.map (fun e => (e.1, .cls e.2)))
  keepGiven (.catalog c) "_classes" table
  return table

/-- Let the script have the table of a section of a definition, which from then on is what the
definition goes by. -/
def handOverMembers (d : Ref .definition) (part : Section) : Prog Value := do
  let es ← seeing (fun h => entriesOfTable ((h.definition d).table part))
  let table := Value.dict (← newDict (Dict.ofEntries es))
  keepGiven (.definition d) (sectionAttribute part) table
  return table

def sectionOfAttribute? (name : String) : Option Section :=
  [Section.statics, .privates, .publics, .operators].find?
    (fun part => sectionAttribute part = name)

/-- The attributes that the records of the model have. -/
def recordAttribute? (v : Value) (name : String) : Prog (Option Value) :=
  match v, name with
  | .builder b, "catalog" => seeing (fun h => some (.catalog (h.builders.get b).catalog))
  | .builder b, "definition" => seeing (fun h => some (.definition (h.builderDefinition b)))
  | .builder b, "finalized" => seeing (fun h => some (.bool (h.finalized b)))
  | .catalog c, "_classes" => do return some (← handOverClasses c)
  | .definition d, "name" => seeing (fun h => some (h.definition d).name)
  | .definition d, "parent" => seeing (fun h => some (h.definition d).parent)
  | .definition d, name =>
    match sectionOfAttribute? name with
    | some part => do return some (← handOverMembers d part)
    | none => return none
  | .declaration d, name => seeing (fun h =>
      match h.declarations.get d, name with
      | .parent p, "parent" => some p
      | .members part _, "section" => some (.text part.name)
      | .members _ _, "entries" => some (.entries d)
      | _, _ => none)
  | .memberKind k, "name" => return some (.text k.name)
  | .memberKind k, "value" => return some (.int k.number)
  | .memberKind _, name => return (MemberKind.ofName? name).map .memberKind
  | .errorKind k, "__name__" => return some (.text k.name)
  | .stateType c, "__name__" => seeing (fun h =>
      some (.text ((h.classes.get c).typeName ++ "State")))
  | .facadeType c, "__name__" => seeing (fun h => some (.text (h.classes.get c).typeName))
  | .exception r, "args" => do return some (.tuple (← exceptionOf r).args)
  | .exception r, name => do return (← exceptionOf r).details.find? name
  | _, _ => return none

/-- Whether a record of the model has an attribute. -/
def isRecorded (v : Value) (name : String) : Prog Bool := do
  match v, name with
  | .catalog _, "_classes" => return true
  | .definition _, name =>
    return name = "name" || name = "parent" || (sectionOfAttribute? name).isSome
  | v, name => return (← recordAttribute? v name).isSome

/-- Whether a thing can be given attributes. -/
def takesAttributes : Value → Bool
  | .function _ | .catalog _ | .builder _ | .definition _ | .exception _ | .memberKind _
  | .errorKind _ | .stateType _ => true
  | _ => false

/-- The fault of changing the attributes of what must stay as it is: of a declaration, and of a kind
of faults that every program knows. -/
def immutable? : Value → Option ErrorKind
  | .declaration _ => some .frozenInstanceError
  | .errorKind k => if k.home?.isNone then some .typeError else none
  | _ => none

/-- The attributes of things that are not instances: what they were given, what their record
has, and their operations. -/
def plainAttribute (v : Value) (name : String) : Prog Value := do
  match ← viewing (fun w => (w.givenTo v).find? name) with
  | some given => return given
  | none =>
    if ← viewing (fun w => w.hasLost v name) then
      match v, name with
      | .definition _, "parent" => return .null
      | _, _ => noAttribute
    else
      match ← recordAttribute? v name with
      | some r => return r
      | none =>
        if (ownOperations v).contains name then newMethod ⟨v, .own name⟩ else noAttribute

/-- The name of an attribute has to be a text. -/
def attributeName : Value → Prog String
  | .text s => return s
  | _ => wrongType

/-- Attributes that are computed and cannot be given. -/
def isComputed : Value → String → Bool
  | .memberKind _, name => name == "name" || name == "value"
  | _, _ => false

/-- The fault of changing an attribute that a thing has only because it is a thing. -/
def isInherent (name : String) : Bool := name == "__class__" || name == "__dict__"

def givePlain (v : Value) (name : String) (new : Value) : Prog Unit := do
  match immutable? v with
  | some k => plainFault k
  | none =>
    if takesAttributes v && isInherent name then wrongType
    else if !takesAttributes v || isComputed v name then noAttribute
    else
      poke (fun w => { w with lost := w.lost.erase (v, name) })
      keepGiven v name new

def losePlain (v : Value) (name : String) : Prog Unit := do
  match immutable? v with
  | some k => plainFault k
  | none =>
    let isGiven ← viewing (fun w => (w.givenTo v).contains name)
    let isLost ← hasLost v name
    if takesAttributes v && isInherent name then wrongType
    else if !takesAttributes v || isComputed v name || (isLost && !isGiven) then noAttribute
    else
      poke (fun w => w.setGiven v ((w.givenTo v).erase name))
      if ← isRecorded v name then poke (fun w => { w with lost := (v, name) :: w.lost })
      else if isGiven then return ()
      else noAttribute

/-- What a class object is made with. It can lose all of it, but is given none of it back. -/
def classSlots : List String := ["_definition", "_catalog", "_state_type", "_facade_type"]

def loseSlot (c : Ref .cls) (name : String) : Prog Unit := do
  if name = "__class__" then wrongType
  else if !classSlots.contains name || (← hasLost (.cls c) name) then noAttribute
  else poke (fun w => { w with lost := (.cls c, name) :: w.lost })

namespace Machine

variable (m : Machine)

/-- Read an attribute of an instance by the rules. -/
def readByRules (v : Value) (name : String) : Prog Value :=
  match v with
  | .facade f => if isSpecial name then specialAttribute v name else m.readPublic f name
  | .state s => if isSpecial name then specialAttribute v name else m.readPrivate s name
  | _ => noAttribute

/-- Go on with `other` if an attribute is missing or out of reach. -/
def orIfMissing {α : Type} (p other : Prog α) : Prog α :=
  tryCatch p (fun f => if f.isCatchable && f.kind.isA .attributeError then other else throw f)

/-- Read an attribute of an instance. A hook can take the place of the rules, and another can help
out where they find nothing. -/
def readInstance (v : Value) (name : String) : Prog Value := do
  let found : Prog Value := do
    match ← m.askHook? v "__getattribute__" [.text name] with
    | some r => return r
    | none => m.readByRules v name
  if ← hasHook v "__getattr__" then orIfMissing found (m.askHook v "__getattr__" [.text name])
  else found

/-- Read an attribute by its name. -/
def readNamed (v : Value) (name : String) : Prog Value :=
  match v with
  | .facade _ | .state _ => m.readInstance v name
  | .cls c => m.readClass c name
  | v => plainAttribute v name

/-- A bound method has its receiver, its function, and the attributes of its function. -/
def readOfMethod (b : BoundMethod) (name : String) : Prog Value :=
  match name, b.callee with
  | "__self__", _ => return b.receiver
  | "__func__", .function f => return f
  | "__name__", .hook hook => return .text hook
  | "__name__", .own operation => return .text operation
  | name, .function f => m.read f name
  | _, _ => noAttribute

/-- Read an attribute of any value. -/
def readStep (v : Value) (name : String) : Prog Value :=
  m.notingMissing v name (do
    match v with
    | .method r => m.readOfMethod (← viewing (fun w => w.methods.get r)) name
    | v => m.readNamed v name)

def readAttribute (v key : Value) : Prog Value := do m.read v (← attributeName key)

/-- Change an attribute of an exception. What it was made from has to be a sequence. -/
def writeException (r : Ref .exception) (name : String) (new : Value) : Prog Unit := do
  if name = "args" then
    let args ← m.tupleOf new
    changeException r (fun e => { e with args })
  else if (← exceptionOf r).details.contains name then
    changeException r (fun e => { e with details := e.details.insert name new })
  else givePlain (.exception r) name new

/-- Take an attribute away from an exception. -/
def loseOfException (r : Ref .exception) (name : String) : Prog Unit := do
  if name = "args" then wrongType
  else if (← exceptionOf r).details.contains name then
    changeException r (fun e => { e with details := e.details.insert name .null })
  else losePlain (.exception r) name

/-- Do what the hook of an instance does, or else what the rules say. -/
def orByHook (v : Value) (hook : String) (args : List Value) (rules : Prog Unit) : Prog Unit := do
  match ← m.askHook? v hook args with
  | some _ => return ()
  | none => rules

def writeAttribute (v key new : Value) : Prog Unit := do
  let name ← attributeName key
  match v with
  | .facade f => m.orByHook v "__setattr__" [key, new] (m.writePublic f name new)
  | .state s => m.orByHook v "__setattr__" [key, new] (m.writePrivate s name new)
  | .cls c => m.writeClass c name new
  | .exception r => m.writeException r name new
  | v => givePlain v name new

def deleteAttribute (v key : Value) : Prog Unit := do
  let name ← attributeName key
  match v with
  | .facade f => m.orByHook v "__delattr__" [key] (m.deletePublic f name)
  | .state s => m.orByHook v "__delattr__" [key] (m.deletePrivate s name)
  | .cls c => loseSlot c name
  | .exception r => loseOfException r name
  | v => losePlain v name

def hasAttribute (v key : Value) : Prog Bool :=
  orIfMissing (do let _ ← m.readAttribute v key; return true) (return false)

end Machine

end ObjectModel.Script
