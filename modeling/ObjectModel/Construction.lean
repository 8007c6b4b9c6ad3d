import ObjectModel.Layers

/-!
# Making objects

How catalogs, builders, declarations, classes and instance layers come into being. A new layer is
given its parent by the parent's facade alone, so the two views of a layer always have parents
that belong together.
-/

namespace ObjectModel

/-- The two views of one layer of an instance. -/
structure Layer where
  state : Ref .state
  facade : Ref .facade
  deriving DecidableEq

/-- The hook name under which the making of the instance types would look for the layout of the
instances. -/
def layoutName : String := "__slots__"

/-- Hook names that the making of the instance types would read as data about the type. -/
def typeDataNames : List String := ["__qualname__", "__classcell__"]

/-- Instance types take their hooks and their names from the class. All hooks must be named by
texts, the name must be a text without the null character, and no hook may stand in for data about
the type. Texts are sequences of Unicode scalar values: a name with an unpaired surrogate, which no
type can have either, is none. -/
def Definition.typeFault? (d : Definition) : Option Fault :=
  match d.name with
  | .text s =>
    if d.operators.keys.any (fun k => k.text?.isNone) then some .wrongType
    else if d.operators.contains (.text layoutName) then some .wrongType
    else if s.toList.contains (Char.ofNat 0) then some (.plain .valueError)
    else if typeDataNames.any (fun n => d.operators.contains (.text n)) then some .wrongType
    else none
  | _ => some .wrongType

namespace Heap

def newCatalog (h : Heap) : Ref .catalog × Heap :=
  (h.catalogs.next, { h with catalogs := h.catalogs.push default })

/-- Open a new, empty definition. -/
def openBuilder (h : Heap) (c : Ref .catalog) (name : Value) : Ref .builder × Heap :=
  (h.builders.next,
    { h with
      definitions := h.definitions.push (.named name)
      builders := h.builders.push ⟨c, h.definitions.next, false⟩ })

def builderDefinition (h : Heap) (b : Ref .builder) : Ref .definition :=
  (h.builders.get b).definition

def finalized (h : Heap) (b : Ref .builder) : Bool := (h.builders.get b).finalized

/-- Change the record of an open builder. -/
def editOpen (h : Heap) (b : Ref .builder) (f : Definition → Except Fault Definition) :
    Except Fault Heap :=
  let d := h.builderDefinition b
  if h.finalized b then .error (.alreadyFinalized (h.definition d).name)
  else do
    let r ← f (h.definition d)
    return { h with definitions := h.definitions.set d r }

def setParent (h : Heap) (b : Ref .builder) (name : Value) : Except Fault Heap :=
  h.editOpen b (fun r => .ok { r with parent := name })

/-- Write a table into a section of an open class body. Nothing is written unless all of the
table is fit for the section. A table of the model is the same each time it is read, so that what is
checked is what is written. A value that is read as a table by asking it may answer otherwise when it
is copied; it is for the client to ask it twice. -/
def addMembers (h : Heap) (b : Ref .builder) (part : Section) (t : Table Key Value) :
    Except Fault Heap :=
  h.editOpen b (fun r => do
    part.check h.callable t
    return r.extend part t)

/-- Close an open builder. From then on it takes no further declarations. -/
def closeBuilder (h : Heap) (b : Ref .builder) : Except Fault Heap :=
  let r := h.builders.get b
  if r.finalized then .error (.alreadyFinalized (h.definition r.definition).name)
  else .ok { h with builders := h.builders.set b { r with finalized := true } }

/-- Keep a declaration as it is. -/
def keep (h : Heap) (d : Declaration) : Ref .declaration × Heap :=
  (h.declarations.next, { h with declarations := h.declarations.push d })

/-- Keep a declaration, whose table is checked first. -/
def declare (h : Heap) (d : Declaration) : Except Fault (Ref .declaration × Heap) := do
  match d with
  | .parent _ => pure ()
  | .members part entries => part.check h.callable entries
  return h.keep d

/-- Make the class of a definition and register it under its name. -/
def register (h : Heap) (c : Ref .catalog) (d : Ref .definition) : Except Fault (Ref .cls × Heap) :=
  let r := h.definition d
  match r.typeFault?, r.name with
  | some f, _ => .error f
  | none, .text name =>
    let cls := h.classes.next
    .ok (cls,
      { h with
        classes := h.classes.push ⟨d, c, name, r.operators⟩
        catalogs := h.catalogs.modify c (fun k => ⟨k.classes.insert name cls⟩) })
  | none, _ => .error .wrongType

/-- Make a class whose definition is kept outside of the model, and register it. What the model
holds in place of the definition is empty but for its name, and the class gets the given hooks. -/
def registerOutside (h : Heap) (c : Ref .catalog) (name : String) (hooks : Table Key Value) :
    Except Fault (Ref .cls × Heap) :=
  let r := Definition.named (.text name)
  match { r with operators := hooks : Definition }.typeFault? with
  | some f => .error f
  | none =>
    let cls := h.classes.next
    .ok (cls,
      { h with
        definitions := h.definitions.push r
        classes := h.classes.push ⟨h.definitions.next, c, name, hooks⟩
        catalogs := h.catalogs.modify c (fun k => ⟨k.classes.insert name cls⟩) })

/-- Add a layer to an instance under construction, below the layer of the given facade. -/
def newLayer (h : Heap) (c : Ref .cls) (parent : Option (Ref .facade)) : Layer × Heap :=
  let above := parent.map h.facadeState
  let fields := match above with
    | some p => Table.ofList [(parentHandle, Value.state p)]
    | none => .empty
  (⟨h.states.next, h.facades.next⟩,
    { h with
      states := h.states.push ⟨c, above, fields⟩
      facades := h.facades.push ⟨h.states.next, parent, .empty⟩ })

end Heap

end ObjectModel
