import ObjectModel.Heap

/-!
# Catalogs and lineages

A catalog maps names to classes; the last class registered under a name counts. Parents are
resolved by name at the moment of asking, so a lineage reflects the latest registration of every
ancestor. Classes are registered under texts. Any other value finds nothing, or cannot be looked up
at all; what a value finds that has to be asked what it is equal to is for the client to say.
-/

namespace ObjectModel.Heap

/-- The fault of looking up a name that is no text. -/
def nameFault (name : Value) : Fault :=
  match name.keyKind with
  | .plain => .undefinedClass name
  | .unhashable => .wrongType
  | .asked => .unresolved name

/-- The class registered under a name. -/
def importClass (h : Heap) (c : Ref .catalog) : Value → Except Fault (Ref .cls)
  | .text s =>
    match (h.catalogs.get c).classes.find? s with
    | some cls => .ok cls
    | none => .error (.undefinedClass (.text s))
  | name => .error (nameFault name)

def lookup (h : Heap) (c : Ref .catalog) (name : Value) : Except Fault (Ref .definition) :=
  (h.importClass c name).map (fun cls => (h.classes.get cls).definition)

def names (h : Heap) (c : Ref .catalog) : List String := (h.catalogs.get c).classes.keys

/-- The fault of a cycle: the chain so far, and the name that comes again. Only texts can be put
together into a message. -/
def cycleFault (h : Heap) (chain : List (Ref .definition)) (next : Value) : Fault :=
  let names := chain.map (fun d => (h.definition d).name)
  if names.all Value.isText then .circularInheritance names next else .wrongType

/-- Continue a lineage with the parent name `current`. `chain` holds the definitions found so
far and `seen` their names. Every step but the last finds a new registered name, so `steps`
larger than the number of registered names is never used up. -/
def climb (h : Heap) (c : Ref .catalog) :
    Nat → List (Ref .definition) → List Value → Value → Except Fault (List (Ref .definition))
  | _, chain, _, .null => .ok chain
  | 0, _, _, _ => .error .exhausted
  | steps + 1, chain, seen, current =>
    if seen.any current.alike then .error (h.cycleFault chain current)
    else do
      let parent ← h.lookup c current
      h.climb c steps (chain ++ [parent]) (current :: seen) (h.definition parent).parent

/-- The definitions from `d` up to its root class. The name of `d` is seen first, and has to be a
key for that. -/
def lineage (h : Heap) (c : Ref .catalog) (d : Ref .definition) :
    Except Fault (List (Ref .definition)) :=
  let r := h.definition d
  match r.name.keyKind with
  | .plain => h.climb c ((h.catalogs.get c).classes.size + 1) [d] [r.name] r.parent
  | .unhashable => .error .wrongType
  | .asked => .error (.unresolved r.name)

end ObjectModel.Heap
