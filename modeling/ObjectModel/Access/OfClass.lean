import ObjectModel.Access.Private

/-!
# Access to class objects

Static members are read and written on the class object itself. A static member hides what class
objects have of their own: the name, the definition, and the slots with what the class was made
with. Nothing but a declared static member can be assigned.
-/

namespace ObjectModel.Heap

/-- What a class object has of its own, apart from the special attributes of every object. -/
def classAttribute? (h : Heap) (c : Ref .cls) : String → Option Value
  | "name" => some (h.className c)
  | "definition" | "_definition" => some (.definition (h.classes.get c).definition)
  | "_catalog" => some (.catalog (h.classes.get c).catalog)
  | "_state_type" => some (.stateType c)
  | "_facade_type" => some (.facadeType c)
  | _ => none

def readClass (h : Heap) (c : Ref .cls) (key : String) : Except Fault Value :=
  if isSpecial key then .error .noAttribute
  else
    match (h.classDefinition c).statics.find? (.text key) with
    | some v => .ok v
    | none =>
      match h.classAttribute? c key with
      | some v => .ok v
      | none => .error (.noStatic (h.className c) key)

def writeClass (h : Heap) (c : Ref .cls) (key : String) (v : Value) : Except Fault Heap :=
  if (h.classDefinition c).isStatic (.text key) then
    .ok (h.setStatic (h.classes.get c).definition key v)
  else .error (.notStatic key (h.className c))

end ObjectModel.Heap
