import ObjectModel.Script.Definitions

/-!
# Layers of instances

The parent layer of an instance, all of its layers, and the definition behind it. Both views of an
instance can be asked; a facade without a parent layer has no definition to name in its complaint.
Other values can be asked as well, as far as they were given what is looked for.
-/

namespace ObjectModel.Script.Machine

variable (m : Machine)

/-- Whether a value is a private state whose class has a definition of its own. -/
def plainState? (v : Value) : Prog (Option (Ref .state)) := do
  match v with
  | .state s => do
    let standIn ← standIn? (← seeing (fun h => h.stateClass s))
    return if standIn.isNone then some s else none
  | _ => return none

/-- The parent layer of a view of an instance. -/
def base (v : Value) : Prog Value := do
  match ← plainState? v with
  | some s => do return .state (← m.settled (← seeing (fun h => h.base s)))
  | none =>
    match ← slot v "_parent" with
    | .null => do m.refuse (.noParent (← m.read (← slot v "_definition") "name"))
    | p => return p

/-- A value and its parent layers, behind those already found. -/
def layersFrom : Nat → Array Value → Value → Prog (Array Value)
  | 0, _, _ => throw .exhausted
  | steps + 1, found, v =>
    match v with
    | .null => return found
    | v => do layersFrom steps (found.push v) (← slot v "_parent")

def layers (v : Value) : Prog Value := do
  match ← plainState? v, v with
  | some s, _ => newList ((← seeing (fun h => h.layers s)).map .state).toArray
  | none, .facade f => newList ((← seeing (fun h => h.facadeLayers f)).map .facade).toArray
  | none, v => newList (← layersFrom loopBound #[] v)

/-- The definition behind either view of an instance, or behind a class. -/
def definitionOf (v : Value) : Prog Value :=
  orIfMissing (slot v "_definition") (do slot (← slot v "_state") "_definition")

end ObjectModel.Script.Machine
