import ObjectModel.Script.Catalogs

/-!
# Classes and instances

Registering classes and making instances of them. Where nothing but definitions is involved this
is left to the model. A stand-in for a definition is asked for its hooks and its name when its
class is registered, and for its parent and its public methods whenever an instance is made; what
it says may change between two questions. Its hooks may stand where the making of a layer wants to
put something else, and then no layer is made. Private states can also be made by themselves, as
parts of no instance.
-/

namespace ObjectModel.Script.Machine

variable (m : Machine)

/-- The hooks among the pairs that an iterator gives. -/
def hooksFrom (it : Value) : Nat → Table Key Value → Prog (Table Key Value)
  | 0, _ => throw .exhausted
  | steps + 1, hooks => do
    match ← m.next? it with
    | none => return hooks
    | some pair => do
      match ← m.pairOf pair with
      | (.text name, f) => hooksFrom it steps (hooks.insert (.text name) f)
      | _ => wrongType

/-- The hooks that a stand-in for a definition has. -/
def hooksOf (standIn : Value) : Prog (Table Key Value) := do
  let operators ← m.read standIn "operators"
  match TableRef.ofValue? operators with
  | some t => do
    let es ← tableEntries t
    if es.all (fun e => e.key.isText) then return memberTableOf es else wrongType
  | none => do
    let pairs ← m.callMember operators "items" []
    m.hooksFrom (← m.iter pairs) loopBound .empty

/-- The name of the types of the instances. It is spoken for the one type and has to be a text for
the other. -/
def typeNameOf (standIn : Value) (hooks : Table Key Value) : Prog String := do
  let check (name : String) : Prog Unit :=
    match { Definition.named (.text name) with operators := hooks : Definition }.typeFault? with
    | some f => throw f
    | none => return ()
  check (← m.spoken (← m.read standIn "name"))
  match ← m.read standIn "name" with
  | .text name => do
    check name
    return name
  | _ => wrongType

/-- Make a class with a stand-in for its definition, and register it under the name of its types. -/
def registerOutside (c : Ref .catalog) (name : String) (hooks : Table Key Value) (standIn : Value) :
    Prog (Ref .cls) := do
  let cls ← m.act (.registerOutside c name hooks)
  keepGiven (.cls cls) "definition" standIn
  return cls

/-- Register the class of whatever has the attributes of a definition. -/
def commitByAsking (c : Ref .catalog) (standIn : Value) : Prog (Ref .cls) := do
  let hooks ← m.hooksOf standIn
  let typeName ← m.typeNameOf standIn hooks
  let name ← m.read standIn "name"
  let cls ←
    if isSame name (.text typeName) && !(← isAltered (.catalog c)) then
      m.registerOutside c typeName hooks standIn
    else do
      let classes ← m.read (.catalog c) "_classes"
      let cls ← m.registerOutside c typeName hooks standIn
      let _ ← m.putItem classes name (.cls cls)
      pure cls
  ask (.note (.committed (← m.repr standIn)))
  return cls

/-- The public method under a name that need not be there, or nothing. -/
def publicMethod (definition : Value) (name : String) : Prog Value := do
  let methods ← m.read definition "public_methods"
  match TableRef.ofValue? methods with
  | some t => return (← m.getItem? t (.text name)).getD .null
  | none => m.callMember methods "get" [.text name]

/-- A value where a class is wanted. -/
def asClass : Value → Prog (Ref .cls)
  | .cls c => return c
  | _ => noAttribute

/-- The parent class of a class, by whatever name it has now. -/
def parentOf? (c : Ref .cls) : Prog (Option (Ref .cls)) := do
  let definition ← keptDefinition (.cls c)
  requireSlot (.cls c) "_catalog"
  match ← m.read definition "parent" with
  | .null => return none
  | _ => do
    let name ← m.read definition "parent"
    let catalog ← seeing (fun h => (h.classes.get c).catalog)
    return some (← asClass (← m.askForClass catalog name))

/-- What a private state and a facade consist of. A hook of such a name stands in the way. -/
def stateSlots : List String := ["_definition", "_fields", "_parent"]

def facadeSlots : List String := ["_state", "_parent", "_external"]

/-- A private state to which nothing was done yet, with all that a hook for making one is given. -/
def unmadeState (c : Ref .cls) : Prog Value := do
  let s := Value.state (← ask (.newLayer c none)).state
  poke (fun w => { w with lost := (s, "_definition") :: w.lost })
  return s

/-- Hooks that take over the making of a layer are asked, but what they make is never fit for the
facade. -/
def makeByHooks (c : Ref .cls) (parent : Value) : Prog Unit := do
  let hook? (name : String) : Prog (Option Value) := seeing (fun h => h.hook? c name)
  let args := [← classDefinition c, parent]
  match ← hook? "__new__" with
  | some f => do
    let _ ← m.call f (Arguments.ofList (.stateType c :: args))
    if (← hook? "_state").isSome then wrongType else noAttribute
  | none =>
    match ← hook? "__init__" with
    | some f =>
      let s ← unmadeState c
      match ← m.call f (Arguments.ofList (s :: args)) with
      | .null => noAttribute
      | _ => wrongType
    | none =>
      if ← seeing (fun h => (stateSlots ++ facadeSlots).any (fun n => (h.hook? c n).isSome)) then
        noAttribute
      else return ()

/-- Add a layer to an instance of a class that has a stand-in for its definition. -/
def newLayer (c : Ref .cls) (parent : Option (Ref .facade)) : Prog Layer := do
  requireSlot (.cls c) "_state_type"
  m.makeByHooks c (← seeing (fun h => ((parent.map h.facadeState).map Value.state).getD .null))
  requireSlot (.cls c) "_facade_type"
  ask (.newLayer c parent)

/-- A class as it is asked, step by step, when an instance is made of it. -/
def asked (c : Ref .cls) : StandIn Prog where
  name := m.className c
  parent? := m.parentOf? c
  newLayer := m.newLayer c
  constructor? := do
    match ← m.publicMethod (← classDefinition c) "constructor" with
    | .null => return none
    | f => return some f

/-- Whether a class object, and the catalog that it belongs to, are as they were made. -/
def isUnchanged (c : Ref .cls) : Prog Bool := do
  let catalog ← seeing (fun h => (h.classes.get c).catalog)
  viewing (fun w => !w.isAltered (.cls c) && !w.isAltered (.catalog catalog))

/-- A bound on the number of layers, once the lineage was asked for. -/
def askedDepth (c : Ref .cls) : Prog Nat := do
  let definition ← keptDefinition (.cls c)
  requireSlot (.cls c) "_catalog"
  let catalog ← seeing (fun h => (h.classes.get c).catalog)
  let _ ← m.unlessGiven (.catalog catalog) "lineage" [definition]
    (do newList (← m.lineageIn catalog definition))
  return loopBound

/-- What the model leaves to scripts. -/
def client : Client Prog where
  call := m.call
  spoken := m.spoken
  describe := m.describe
  standIn? c := do
    return if (← isUnchanged c) && (← standIn? c).isNone then none else some (m.asked c)
  depth? c := do
    let catalog ← seeing (fun h => (h.classes.get c).catalog)
    if (← isUnchanged c) && (← standIn? c).isNone && (← isPlainCatalog catalog) then return none
    else return some (← m.askedDepth c)

/-- Register the class of a definition, or of what stands in for one. -/
def commit (c : Ref .catalog) (definition : Value) : Prog (Ref .cls) := do
  match definition with
  | .definition d =>
    let isSimple ← seeing (fun h => isSimpleDefinition (h.definition d))
    if !isSimple || (← isAltered (.catalog c)) || (← isAltered definition) then
      m.commitByAsking c definition
    else m.explained (m.client.commit c d)
  | _ => m.commitByAsking c definition

/-- Make an instance of a class. -/
def instantiate (c : Ref .cls) (args : Arguments) : Prog (Ref .facade) :=
  m.explained (m.client.instantiate c args)

/-- The facade of the layer of a private state. Both views of a layer come into being together, so
they have the same place. -/
def facadeBeside (s : Ref .state) : Ref .facade := ⟨s.index⟩

/-- A private state that belongs to no instance, with whatever it is given for a definition and for
a parent layer. Its class is in a catalog of its own. -/
def bareState (name : String) (hooks : Table Key Value) (definition parent : Value) :
    Prog Value := do
  let cls ← m.registerOutside (← ask .newCatalog) name hooks definition
  m.makeByHooks cls parent
  match parent with
  | .state p => return .state (← ask (.newLayer cls (some (facadeBeside p)))).state
  | parent => do
    let v := Value.state (← ask (.newLayer cls none)).state
    if !isSame parent .null then keepGiven v "_parent" parent
    return v

end ObjectModel.Script.Machine
