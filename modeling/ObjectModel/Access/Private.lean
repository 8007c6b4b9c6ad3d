import ObjectModel.Layers

/-!
# Access from inside

A private state sees everything that its class declares: private methods, public methods, static
members and the fields stored in it, in this order. Methods are bound to the state itself. A write
to a static member goes to the storage shared by the class, any other write to a field. The
handle of the parent layer can neither be assigned nor deleted.
-/

namespace ObjectModel

/-- What reading a member gives: a method together with its receiver, or a stored value. -/
inductive Reading where
  | method (function : Value) (receiver : Ref .state)
  | value (v : Value)
  deriving DecidableEq

namespace Heap

def fields (h : Heap) (s : Ref .state) : Table String Value := (h.states.get s).fields

def readPrivate (h : Heap) (s : Ref .state) (key : String) : Except Fault Reading :=
  let d := h.stateDefinition s
  match d.method? (.text key) with
  | some f => .ok (.method f s)
  | none =>
    match d.statics.find? (.text key) with
    | some v => .ok (.value v)
    | none =>
      match (h.fields s).find? key with
      | some v => .ok (.value v)
      | none => .error (.noMember d.name key)

/-- Change the value of a static member of a definition. -/
def setStatic (h : Heap) (d : Ref .definition) (key : String) (v : Value) : Heap :=
  { h with definitions := h.definitions.modify d (fun r => r.setStatic (.text key) v) }

def setFields (h : Heap) (s : Ref .state) (t : Table String Value) : Heap :=
  { h with states := h.states.modify s (fun r => { r with fields := t }) }

def writePrivate (h : Heap) (s : Ref .state) (key : String) (v : Value) : Except Fault Heap :=
  if key = parentHandle then .error (.parentAssigned (h.stateDefinition s).name)
  else if (h.stateDefinition s).isStatic (.text key) then
    .ok (h.setStatic (h.classes.get (h.stateClass s)).definition key v)
  else .ok (h.setFields s ((h.fields s).insert key v))

def deletePrivate (h : Heap) (s : Ref .state) (key : String) : Except Fault Heap :=
  if key = parentHandle then .error .parentDeleted
  else if (h.fields s).contains key then .ok (h.setFields s ((h.fields s).erase key))
  else .error (.noField (h.stateDefinition s).name key)

end Heap

end ObjectModel
