import ObjectModel.Table
import ObjectModel.Fault

/-!
# Class definitions

The record of one class: its name, the name of its parent, the shared storage of its static
members, and the tables of its private methods, public methods and operator hooks. The storage
of statics is one cell per definition and is not chained to the parent.
-/

namespace ObjectModel

/-- The name of the field in which a private state keeps its parent layer. -/
def parentHandle : String := "super"

/-- Hooks that would take over member access or the layout of instances. -/
def reservedOperators : List String :=
  ["__getattr__", "__getattribute__", "__setattr__", "__delattr__", "__init__", "__new__",
   "__init_subclass__", "__slots__", "__dict__", "__class__"]

/-- Special names start and end with two underscores; the two pairs may overlap. -/
def isSpecial (name : String) : Bool :=
  name.toList.take 2 == ['_', '_'] && name.toList.reverse.take 2 == ['_', '_']

/-- Special names with something between the underscores, and no reserved ones, name hooks. -/
def isHookName (name : String) : Bool :=
  decide (4 < name.length) && isSpecial name && !reservedOperators.contains name

/-- The first rule of a section that an entry breaks. -/
def Section.offence (callable : Value → Bool) : Section → Key × Value → Option Fault
  | .statics, (key, _) =>
    if key == .text parentHandle then some (.reservedMember .statics) else none
  | .operators, (key, value) =>
    if !callable value then some (.operatorNotCallable key.toValue)
    else match key with
      | .text name =>
        if reservedOperators.contains name then some (.operatorReserved (.text name))
        else if isHookName name then none
        else some (.operatorNotSpecial (.text name))
      | .value v _ => some (.operatorNotSpecial v)
  | part, (key, value) =>
    if key == .text parentHandle then some (.reservedMember part)
    else if !callable value then some (.memberNotCallable part key.toValue value)
    else none

/-- A table is fit for a section if none of its entries offends; the first offence is reported. -/
def Section.check (callable : Value → Bool) (part : Section) (t : Table Key Value) :
    Except Fault Unit :=
  match t.entries.findSome? (part.offence callable) with
  | some f => .error f
  | none => .ok ()

structure Definition where
  name : Value
  /-- The name of the parent class, or nothing. -/
  parent : Value
  statics : Table Key Value
  privates : Table Key Value
  publics : Table Key Value
  operators : Table Key Value
  deriving DecidableEq

namespace Definition

def named (name : Value) : Definition :=
  ⟨name, .null, .empty, .empty, .empty, .empty⟩

instance : Inhabited Definition := ⟨named .null⟩

def table (d : Definition) : Section → Table Key Value
  | .statics => d.statics
  | .privates => d.privates
  | .publics => d.publics
  | .operators => d.operators

def withTable (d : Definition) (part : Section) (t : Table Key Value) : Definition :=
  match part with
  | .statics => { d with statics := t }
  | .privates => { d with privates := t }
  | .publics => { d with publics := t }
  | .operators => { d with operators := t }

/-- Write the entries of `t` into a section. -/
def extend (d : Definition) (part : Section) (t : Table Key Value) : Definition :=
  d.withTable part ((d.table part).merge t)

def isPrivate (d : Definition) (key : Key) : Bool := d.privates.contains key

def isPublic (d : Definition) (key : Key) : Bool := d.publics.contains key

def isStatic (d : Definition) (key : Key) : Bool := d.statics.contains key

/-- A name is resolved as a private method, then a public one, then a static member. -/
def kindOf (d : Definition) (key : Key) : MemberKind :=
  if d.isPrivate key then .privateMethod
  else if d.isPublic key then .publicMethod
  else if d.isStatic key then .static
  else .field

/-- The method body declared under `key`, private methods first. -/
def method? (d : Definition) (key : Key) : Option Value :=
  match d.privates.find? key with
  | some f => some f
  | none => d.publics.find? key

def setStatic (d : Definition) (key : Key) (v : Value) : Definition :=
  { d with statics := d.statics.insert key v }

end Definition

/-- The text of a key, if it is one. -/
def Key.text? : Key → Option String
  | .text s => some s
  | .value _ _ => none

/-- The number that a key stands for, if it is an integer or a truth value. -/
def Key.int? (k : Key) : Option Int :=
  match k.toValue.canonical with
  | .int n => some n
  | _ => none

/-- Put a member in front of the first of a list that it need not come after. -/
def insertOrdered {α : Type} (le : α → α → Bool) (a : α) : List α → List α
  | [] => [a]
  | b :: l => if le a b then a :: b :: l else b :: insertOrdered le a l

/-- Put a list in order. Members that are in order both ways stay as they are. -/
def inOrder {α : Type} (le : α → α → Bool) (l : List α) : List α :=
  l.foldr (insertOrdered le) []

/-- Keys can be put in order if there is at most one, if all are texts, or if all are numbers. -/
def sortKeys? (ks : List Key) : Option (List Key) :=
  if ks.length < 2 then some ks
  else if ks.all (fun k => k.text?.isSome) then
    some (inOrder (fun a b => decide (a.text?.getD "" ≤ b.text?.getD "")) ks)
  else if ks.all (fun k => k.int?.isSome) then
    some (inOrder (fun a b => decide (a.int?.getD 0 ≤ b.int?.getD 0)) ks)
  else none

/-- A table is shown by its keys, in order. -/
def describeTable {m : Type → Type} [Monad m] (show_ : Display m) (label : String)
    (t : Table Key Value) : m String := do
  let keys ← show_.sorted (t.keys.map Key.toValue)
  return label ++ "=" ++ bracketed (← keys.mapM show_.repr)

/-- The line that describes a definition, from the texts of its parts. -/
def definitionLine (name parent : String) (tables : List String) : String :=
  "ClassDefinition(" ++ name ++ parent ++ ", " ++ ", ".intercalate tables ++ ")"

/-- The one-line description of a definition. -/
def Definition.describe {m : Type → Type} [Monad m] (show_ : Display m) (d : Definition) :
    m String := do
  let parent ← if ← show_.truth d.parent then
      (" extends " ++ ·) <$> show_.spoken d.parent
    else pure ""
  let name ← show_.spoken d.name
  let statics ← describeTable show_ "static" d.statics
  let privates ← describeTable show_ "private" d.privates
  let publics ← describeTable show_ "public" d.publics
  let operators ← describeTable show_ "operators" d.operators
  return definitionLine name parent [statics, privates, publics, operators]

end ObjectModel
