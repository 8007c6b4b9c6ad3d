import ObjectModel.Store
import ObjectModel.Definition

/-!
# The heap

All objects of the model: catalogs of classes, builders, definitions, declarations, class
objects, and the two views of every instance layer. A class object keeps the operator hooks that
its definition had when the class was made. A layer of an instance is a private state together
with a public facade; both know their parent layer.
-/

namespace ObjectModel

/-- One item of a class body. -/
inductive Declaration where
  | parent (name : Value)
  | members (part : Section) (entries : Table Key Value)
  deriving DecidableEq

instance : Inhabited Declaration := ⟨.parent .null⟩

/-- Classes by name, in the order in which the names were first registered. -/
structure Catalog where
  classes : Table String (Ref .cls)

instance : Inhabited Catalog := ⟨⟨.empty⟩⟩

structure Builder where
  catalog : Ref .catalog
  definition : Ref .definition
  finalized : Bool
  deriving Inhabited

structure Class where
  definition : Ref .definition
  catalog : Ref .catalog
  /-- The name that the definition had when the class was made. The types of the instances keep
  it. -/
  typeName : String
  /-- The operator hooks, as they were when the class was made. -/
  operators : Table Key Value
  deriving Inhabited

/-- The internal view of one layer, with the fields of that layer. -/
structure State where
  cls : Ref .cls
  parent : Option (Ref .state)
  fields : Table String Value
  deriving Inhabited

/-- The external view of one layer, with the keys that were written from outside. -/
structure Facade where
  state : Ref .state
  parent : Option (Ref .facade)
  external : Table String Value
  deriving Inhabited

structure Heap where
  catalogs : Store .catalog Catalog
  builders : Store .builder Builder
  definitions : Store .definition Definition
  declarations : Store .declaration Declaration
  classes : Store .cls Class
  states : Store .state State
  facades : Store .facade Facade

namespace Heap

/-- The catalog that is used where none is given. It is there from the start. -/
def defaultCatalog : Ref .catalog := ⟨0⟩

def initial : Heap where
  catalogs := Store.empty.push default
  builders := .empty
  definitions := .empty
  declarations := .empty
  classes := .empty
  states := .empty
  facades := .empty

instance : Inhabited Heap := ⟨initial⟩

def definition (h : Heap) (d : Ref .definition) : Definition := h.definitions.get d

/-- The definition of a class object. -/
def classDefinition (h : Heap) (c : Ref .cls) : Definition :=
  h.definition (h.classes.get c).definition

def className (h : Heap) (c : Ref .cls) : Value := (h.classDefinition c).name

/-- The class of a private state. -/
def stateClass (h : Heap) (s : Ref .state) : Ref .cls := (h.states.get s).cls

/-- The class of a public facade is that of the state behind it. -/
def facadeClass (h : Heap) (f : Ref .facade) : Ref .cls := h.stateClass (h.facades.get f).state

def stateDefinition (h : Heap) (s : Ref .state) : Definition := h.classDefinition (h.stateClass s)

def facadeDefinition (h : Heap) (f : Ref .facade) : Definition :=
  h.classDefinition (h.facadeClass f)

/-- The operator hook of a class under `name`. -/
def hook? (h : Heap) (c : Ref .cls) (name : String) : Option Value :=
  (h.classes.get c).operators.find? (.text name)

/-- The class of an instance, through whichever view it is seen. -/
def instanceClass? (h : Heap) : Value → Option (Ref .cls)
  | .state s => some (h.stateClass s)
  | .facade f => some (h.facadeClass f)
  | _ => none

/-- The operator hook that a value answers to. Only instances have hooks. -/
def hookOf? (h : Heap) (v : Value) (name : String) : Option Value :=
  (h.instanceClass? v).bind (fun c => h.hook? c name)

/-- Whether a value can be called. An instance can be called if it is there and has a hook for
it. -/
def callable (h : Heap) : Value → Bool
  | .function _ | .method _ | .cls _ | .builder _ | .errorKind _ | .stateType _
  | .facadeType _ => true
  | .state s => h.states.contains s && (h.hook? (h.stateClass s) "__call__").isSome
  | .facade f => h.facades.contains f && (h.hook? (h.facadeClass f) "__call__").isSome
  | _ => false

end Heap

end ObjectModel
