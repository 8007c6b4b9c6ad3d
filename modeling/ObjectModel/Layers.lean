import ObjectModel.Heap

/-!
# Layers

An instance has one layer per level of its class hierarchy. From any layer the parent links lead
up to the root. A parent is always older than its child, so the climb ends after at most as many
steps as the place of the first layer.
-/

namespace ObjectModel

/-- Climb from `x` along `parent`, at most `steps` times. -/
def ascend {role : Role} (parent : Ref role → Option (Ref role)) : Nat → Ref role → List (Ref role)
  | 0, x => [x]
  | steps + 1, x =>
    x :: match parent x with
      | some y => ascend parent steps y
      | none => []

namespace Heap

def parentState (h : Heap) (s : Ref .state) : Option (Ref .state) := (h.states.get s).parent

def parentFacade (h : Heap) (f : Ref .facade) : Option (Ref .facade) := (h.facades.get f).parent

def facadeState (h : Heap) (f : Ref .facade) : Ref .state := (h.facades.get f).state

/-- A private state and its parent layers, up to the root. -/
def layers (h : Heap) (s : Ref .state) : List (Ref .state) := ascend h.parentState s.index s

/-- A facade and its parent facades, up to the root. -/
def facadeLayers (h : Heap) (f : Ref .facade) : List (Ref .facade) :=
  ascend h.parentFacade f.index f

/-- The parent layer, which a class without a parent class does not have. -/
def base (h : Heap) (s : Ref .state) : Except Fault (Ref .state) :=
  match h.parentState s with
  | some p => .ok p
  | none => .error (.noParent (h.stateDefinition s).name)

end Heap

end ObjectModel
