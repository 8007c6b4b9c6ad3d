import ObjectModel.Script.Iteration

/-!
# Items

Reading, writing and deleting what a value holds under a key or a number. Numbers below zero are
counted from the end. An instance has hooks for all three.
-/

namespace ObjectModel.Script.Machine

variable (m : Machine)

/-- The place of an item, counted from the start, if there is one. -/
def placeOf? (i : Int) (size : Nat) : Option Nat :=
  let j := if i < 0 then i + size else i
  if 0 ≤ j ∧ j < size then some j.toNat else none

/-- The place in a list that a value names. The list is measured after the value is asked. -/
def placeIn (s : Sequence) (i : Value) : Prog Nat := do
  let n ← m.index i
  match placeOf? n (← s.size) with
  | some j => return j
  | none => plainFault .indexError

def sequenceItem (s : Sequence) (i : Value) : Prog Value := do
  match ← s.item? (← m.placeIn s i) with
  | some v => return v
  | none => plainFault .indexError

def getItem (v i : Value) : Prog Value := do
  match v with
  | .list r => m.sequenceItem (.list r) i
  | .tuple r => m.sequenceItem (.tuple r) i
  | .text s =>
    let cs := s.toList.toArray
    match (placeOf? (← m.index i) cs.size).bind (cs[·]?) with
    | some c => return .text (String.singleton c)
    | none => plainFault .indexError
  | _ =>
    match TableRef.ofValue? v with
    | some t =>
      match ← m.getItem? t i with
      | some found => return found
      | none => missingKey i
    | none =>
      match ← m.askHook? v "__getitem__" [i] with
      | some r => return r
      | none => wrongType

/-- Whether the type of a value has room for numbered items, even if it has none. -/
def mayHoldItems (v : Value) : Prog Bool :=
  match v with
  | .text _ | .tuple _ | .entries _ | .state _ | .facade _ | .cls _ | .builder _ | .catalog _
  | .definition _ | .declaration _ | .memberKind _ => return true
  | .exception r => viewing (fun w => ((w.exceptions.get r).kind.home?).isSome)
  | _ => return false

/-- Items cannot be written or deleted. A value with a hook for the other of the two has no such
attribute. Any other value is of the wrong type, but the number is asked for first if the value
could have had items. -/
def refuseItem (v i : Value) (other : String) : Prog Value := do
  if ← hasHook v other then noAttribute
  else if (← mayHoldItems v) && ((plainInt? i).isSome || (← hasHook i "__index__")) then
    let n ← m.index i
    if n < -maxLength - 1 ∨ maxLength < n then plainFault .indexError else wrongType
  else wrongType

def putItem (v i new : Value) : Prog Value := do
  match v with
  | .dict r => do
    m.setItem (.own r) i new
    return .null
  | .list r => do
    let j ← m.placeIn (.list r) i
    changeList r (fun items => items.setIfInBounds j new)
    return .null
  | _ =>
    match ← m.askHook? v "__setitem__" [i, new] with
    | some _ => return .null
    | none => m.refuseItem v i "__delitem__"

def dropItem (v i : Value) : Prog Value := do
  match v with
  | .dict r => do
    m.deleteItem (.own r) i
    return .null
  | .list r => do
    let j ← m.placeIn (.list r) i
    changeList r (fun items => items.eraseIdxIfInBounds j)
    return .null
  | _ =>
    match ← m.askHook? v "__delitem__" [i] with
    | some _ => return .null
    | none => m.refuseItem v i "__setitem__"

end ObjectModel.Script.Machine
