import ObjectModel.Program

/-!
# Views of a class

A definition can be seen through the class objects that were made for it and through both sides of
their instances. Each of these views has its own way to read and to write a static member.
-/

namespace ObjectModel

/-- What the members of a class are seen through. -/
inductive View where
  | ofClass (c : Ref .cls)
  | ofFacade (f : Ref .facade)
  | ofState (s : Ref .state)
  deriving DecidableEq

namespace View

def present (h : Heap) : View → Bool
  | .ofClass c => h.classes.contains c
  | .ofFacade f => h.facades.contains f
  | .ofState s => h.states.contains s

def cls (h : Heap) : View → Ref .cls
  | .ofClass c => c
  | .ofFacade f => h.facadeClass f
  | .ofState s => h.stateClass s

/-- The definition that is seen. -/
def definition (h : Heap) (view : View) : Ref .definition := (h.classes.get (view.cls h)).definition

/-- Read a member whose name is not special. -/
def read (h : Heap) (key : String) : View → Except Fault Reading
  | .ofClass c => (h.readClass c key).map .value
  | .ofFacade f => h.readPublic f key
  | .ofState s => h.readPrivate s key

variable {σ : Type}

def writing (key : String) (v : Value) : View → Action σ
  | .ofClass c => .writeClass c key v
  | .ofFacade f => .writePublic f key v
  | .ofState s => .writePrivate s key v

def write (key : String) (v : Value) : View → Program σ Unit
  | .ofClass c => ask (.writeClass c key v)
  | .ofFacade f => ask (.writePublic f key v)
  | .ofState s => ask (.writePrivate s key v)

end View

/-- The write through a view that an action is. -/
def Action.write? {σ : Type} : Action σ → Option (View × String × Value)
  | .writeClass c key v => some (.ofClass c, key, v)
  | .writePublic f key v => some (.ofFacade f, key, v)
  | .writePrivate s key v => some (.ofState s, key, v)
  | _ => none

theorem Action.write?_eq_some {σ : Type} {a : Action σ} {view : View} {key : String} {v : Value} :
    a.write? = some (view, key, v) ↔ a = view.writing key v := by
  cases a <;> cases view <;> simp [write?, View.writing]

end ObjectModel
