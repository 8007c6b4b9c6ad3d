import ObjectModel.Access.Private

/-!
# Access from outside

A facade sees the keys that were written onto it from outside, then the public methods and the
static members of its own class. A private method of its class is refused. Any other name is
looked for one level up, provided that some class further up declares it public; static members
of ancestors are therefore found only where an ancestor's public method of that name stands behind
them. A write from outside changes an external key or a static member; a new external key is
stored only if the settings allow it.
-/

namespace ObjectModel

/-- What a write from outside does. -/
inductive PublicWrite where
  /-- An external key that is already there is overwritten. -/
  | overwrite
  /-- A static member of the class is changed. -/
  | static
  /-- The key is unknown to the class and was never written. -/
  | unknown
  deriving DecidableEq

namespace Heap

def external (h : Heap) (f : Ref .facade) : Table String Value := (h.facades.get f).external

/-- Read `key` at the first of the given levels, or further up. -/
def readLevels (h : Heap) (key : String) : List (Ref .facade) → Except Fault Reading
  | [] => .error (.noPublicMember key)
  | f :: above =>
    match (h.external f).find? key with
    | some v => .ok (.value v)
    | none =>
      let d := h.facadeDefinition f
      if d.isPrivate (.text key) then .error (.privateMember key)
      else if d.isPublic (.text key) || d.isStatic (.text key) then
        h.readPrivate (h.facadeState f) key
      else if above.any (fun g => (h.facadeDefinition g).isPublic (.text key)) then
        h.readLevels key above
      else .error (.noPublicMember key)

def readPublic (h : Heap) (f : Ref .facade) (key : String) : Except Fault Reading :=
  h.readLevels key (h.facadeLayers f)

def setExternal (h : Heap) (f : Ref .facade) (t : Table String Value) : Heap :=
  { h with facades := h.facades.modify f (fun r => { r with external := t }) }

def addExternal (h : Heap) (f : Ref .facade) (key : String) (v : Value) : Heap :=
  h.setExternal f ((h.external f).insert key v)

def publicWrite (h : Heap) (f : Ref .facade) (key : String) : PublicWrite :=
  if (h.external f).contains key then .overwrite
  else if (h.facadeDefinition f).isStatic (.text key) then .static
  else .unknown

def deletePublic (h : Heap) (f : Ref .facade) (key : String) : Except Fault Heap :=
  if (h.external f).contains key then .ok (h.setExternal f ((h.external f).erase key))
  else .error (.undeletable key (h.facadeDefinition f).name)

end Heap

end ObjectModel
