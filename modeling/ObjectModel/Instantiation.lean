import ObjectModel.Program
import ObjectModel.Lineage

/-!
# Class bodies and instances

What a builder does with the items of a class body, and how a class object makes an instance. The
lineage of the class is resolved before anything is made. Then the layers come into being from the
root down, and each layer runs its own constructor, if its class has a public method of that name,
with the arguments of the call. The caller gets the facade of the lowest layer. A class may have a
definition that the client keeps itself; at each step such a class is asked as it is then.
-/

namespace ObjectModel

/-- What a call is given. -/
structure Arguments where
  positional : List Value
  named : Table String Value
  deriving Inhabited

namespace Arguments

def ofList (vs : List Value) : Arguments := ⟨vs, .empty⟩

/-- The same arguments behind a receiver. -/
def after (args : Arguments) (receiver : Value) : Arguments :=
  { args with positional := receiver :: args.positional }

def isNamed (args : Arguments) (name : String) : Bool := args.named.contains name

end Arguments

/-- Hook names that the type of an instance answers itself, before the hook is found. -/
def typeAttributes : List String :=
  ["__name__", "__base__", "__bases__", "__mro__", "__dict__", "__basicsize__", "__itemsize__",
   "__flags__", "__dictoffset__", "__weakrefoffset__", "__text_signature__"]

/-- The hooks that belong to the type of an instance rather than to the instance. -/
def typeHooks : List String := ["__class_getitem__", "__init_subclass__"]

section Hooks

variable {σ : Type} {m : Type → Type} [Acting σ m] (call : Value → Arguments → m Value)

/-- Call the operator hook `name` of a private state. The receiver of a hook is its argument
`state`, so no argument may have that name. -/
def callStateHook (s : Ref .state) (name : String) (args : Arguments) : m Value := do
  let h ← look
  match h.hook? (h.stateClass s) name with
  | none => throw .noAttribute
  | some f =>
    if args.isNamed "state" then throw .wrongType
    else if typeHooks.contains name then call f (args.after (.stateType (h.stateClass s)))
    else call f (args.after (.state s))

/-- Call the operator hook `name` through a facade, which hands it on to the private state. What
the type of the state answers itself is no hook and cannot be called. -/
def callFacadeHook (f : Ref .facade) (name : String) (args : Arguments) : m Value := do
  let h ← look
  if args.isNamed "facade" then throw .wrongType
  else if typeHooks.contains name then throw .noAttribute
  else if typeAttributes.contains name then throw .wrongType
  else callStateHook call (h.facadeState f) name args

/-- Call an operator hook through either view. -/
def callHook (receiver : Value) (name : String) (args : Arguments) : m Value :=
  match receiver with
  | .state s => callStateHook call s name args
  | .facade f => callFacadeHook call f name args
  | _ => throw .noAttribute

end Hooks

/-- Apply an item of a class body to a builder: it names the parent class, or writes into a
section. -/
def applyDeclaration {σ : Type} {m : Type → Type} [Acting σ m] (b : Ref .builder)
    (d : Ref .declaration) : m Unit := do
  match (← look).declarations.get d with
  | .parent name => ask (.setParent b name)
  | .members part entries => ask (.addMembers b part entries)

/-- What makes the layers of a class whose definition is kept by the client. -/
structure StandIn (m : Type → Type) where
  name : m Value
  /-- The parent class, if there is one. -/
  parent? : m (Option (Ref .cls))
  newLayer : Option (Ref .facade) → m Layer
  constructor? : m (Option Value)

/-- What the model leaves to its client: to call values, to describe what is to be reported, and
to know the classes whose definitions it keeps itself. -/
structure Client (m : Type → Type) where
  call : Value → Arguments → m Value
  /-- The text of a value inside a sentence. -/
  spoken : Value → m String
  /-- The description of a definition. -/
  describe : Ref .definition → m String
  /-- What stands in for the definition of a class, if something does now. -/
  standIn? : Ref .cls → m (Option (StandIn m))
  /-- A bound on the layers of an instance, where the model alone does not know the lineage of its
  class. -/
  depth? : Ref .cls → m (Option Nat)

namespace Client

variable {σ : Type} {m : Type → Type} [Acting σ m] (client : Client m)

/-- Register the class of a definition and report it. If the report fails, the class stays
registered. -/
def commit (c : Ref .catalog) (d : Ref .definition) : m (Ref .cls) := do
  let cls ← ask (.register c d)
  ask (.note (.committed (← client.describe d)))
  return cls

/-- Close the body of a builder and register its class. -/
def finalize (b : Ref .builder) : m (Ref .cls) := do
  ask (.closeBuilder b)
  let h ← look
  let r := h.builders.get b
  client.commit r.catalog r.definition

/-- The parent class of a class, as it is registered now. -/
def parentClass? (c : Ref .cls) : m (Option (Ref .cls)) := do
  match ← client.standIn? c with
  | some s => s.parent?
  | none =>
    let h ← look
    match (h.classDefinition c).parent with
    | .null => return none
    | name => return some (← settle (h.importClass (h.classes.get c).catalog name))

def newLayer (c : Ref .cls) (parent : Option (Ref .facade)) : m Layer := do
  match ← client.standIn? c with
  | some s => s.newLayer parent
  | none => ask (.newLayer c parent)

/-- The constructor of a class is its public method of that name. -/
def constructor? (c : Ref .cls) : m (Option Value) := do
  match ← client.standIn? c with
  | some s => s.constructor?
  | none =>
    let h ← look
    return (h.classDefinition c).publics.find? (.text "constructor")

/-- Add one layer and run its constructor. -/
def addLayer (args : Arguments) (c : Ref .cls) (parent : Option (Ref .facade)) : m Layer := do
  let layer ← client.newLayer c parent
  match ← client.constructor? c with
  | some f =>
    let _ ← client.call f (args.after (.state layer.state))
    return layer
  | none => return layer

/-- Build the layers of a class, ancestors first. `depth` bounds their number. -/
def construct (args : Arguments) : Nat → Ref .cls → m Layer
  | 0, _ => throw .exhausted
  | depth + 1, c => do
    match ← client.parentClass? c with
    | none => client.addLayer args c none
    | some above =>
      let parent ← construct args depth above
      client.addLayer args c (some parent.facade)

/-- The number of layers that an instance of a class gets, or a bound on it. -/
def depthOf (c : Ref .cls) : m Nat := do
  match ← client.depth? c with
  | some n => return n
  | none =>
    let h ← look
    let r := h.classes.get c
    return (← settle (h.lineage r.catalog r.definition)).length

def nameOf (c : Ref .cls) : m Value := do
  match ← client.standIn? c with
  | some s => s.name
  | none => return (← look).className c

/-- Make an instance. A class object is itself the argument `self` of its call, so no argument
may have that name. -/
def instantiate (c : Ref .cls) (args : Arguments) : m (Ref .facade) := do
  if args.isNamed "self" then throw .wrongType
  else
    let depth ← client.depthOf c
    let layer ← client.construct args depth c
    ask (.note (.instantiated (← client.spoken (← client.nameOf c))))
    return layer.facade

end Client

end ObjectModel
