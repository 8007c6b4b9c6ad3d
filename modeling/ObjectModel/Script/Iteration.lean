import ObjectModel.Script.Comparison
import ObjectModel.Script.TypeName

/-!
# Iteration

A value is gone through by an iterator. An instance gives one itself, or has its items asked for by
number. Iterators remember where they stand, so two of them do not disturb each other, and one that
has come to its end stays there.
-/

namespace ObjectModel.Script

/-- Let a fault of the given kind be one without a message. -/
def withoutMessage {α : Type} (k : ErrorKind) (p : Prog α) : Prog α :=
  tryCatch p (fun f => if f.isCatchable && f.kind.isA k then plainFault k else throw f)

namespace Machine

variable (m : Machine)

/-- Whether a value can be asked for a next item. -/
def isIterator (v : Value) : Prog Bool :=
  match v with
  | .iterator _ => return true
  | v => hasHook v "__next__"

/-- An iterator over a value. -/
def iter (v : Value) : Prog Value := do
  match v with
  | .list r => newIterator (.list r 0)
  | .tuple r => newIterator (.tuple r 0)
  | .text s =>
    let cs := s.toList
    newIterator (.text cs (cs.all (fun c => c.toNat < 128)))
  | .iterator _ => return v
  | _ =>
    match TableRef.ofValue? v with
    | some t => do
      let size ← tableSize t
      newIterator (.keys t 0 size size)
    | none =>
      match ← m.askHook? v "__iter__" [] with
      | some it => if ← isIterator it then return it else wrongType
      | none => if ← hasHook v "__getitem__" then newIterator (.items v 0) else wrongType

/-- Let an iterator end. -/
def finish (r : Ref .iterator) : Prog (Option Value) := do
  setCursor r (.finished (← typeName (.iterator r)))
  return none

/-- The next key of a table. The table has to keep its size, and no more keys may turn up than
there were. -/
def advanceKeys (r : Ref .iterator) (t : TableRef) (i size left : Nat) : Prog (Option Value) := do
  if (← tableSize t) ≠ size then
    setCursor r .spoiled
    plainFault .runtimeError
  else
    match ← nextEntry t i, left with
    | none, _ => finish r
    | some _, 0 => do
      let _ ← finish r
      plainFault .runtimeError
    | some (e, next), left + 1 => do
      setCursor r (.keys t next size left)
      return some e.key

/-- Move an iterator on. Nothing is given when it has come to its end. -/
def advance (r : Ref .iterator) : Prog (Option Value) := do
  match ← viewing (fun w => w.iterators.get r) with
  | .list l i =>
    match ← (Sequence.list l).item? i with
    | some v => do
      setCursor r (.list l (i + 1))
      return some v
    | none => finish r
  | .tuple t i =>
    match ← (Sequence.tuple t).item? i with
    | some v => do
      setCursor r (.tuple t (i + 1))
      return some v
    | none => finish r
  | .text [] _ => finish r
  | .text (c :: cs) ascii => do
    setCursor r (.text cs ascii)
    return some (.text (String.singleton c))
  | .keys t i size left => advanceKeys r t i size left
  | .spoiled => plainFault .runtimeError
  | .items target i => do
    let item ← tryCatch
      (do return some (← m.askHook target "__getitem__" [.int i]))
      (fun f => if f.isCatchable && (f.kind.isA .indexError || f.kind.isA .stopIteration)
        then return none else throw f)
    match item with
    | some v => do
      setCursor r (.items target (i + 1))
      return some v
    | none => finish r
  | .finished _ => return none

/-- The next item, or the fault that there is none. -/
def next (v : Value) : Prog Value := do
  match v with
  | .iterator r =>
    match ← m.advance r with
    | some item => return item
    | none => plainFault .stopIteration
  | _ =>
    match ← m.askHook? v "__next__" [] with
    | some item => return item
    | none => wrongType

/-- The next item, if there is one. -/
def next? (v : Value) : Prog (Option Value) := do
  match v with
  | .iterator r => m.advance r
  | _ =>
    tryCatch (do return some (← m.next v))
      (fun f => if f.isCatchable && f.kind.isA .stopIteration then return none else throw f)

/-- The items that an iterator still gives, behind those already taken. -/
def drain (it : Value) : Nat → Array Value → Prog (Array Value)
  | 0, _ => throw .exhausted
  | steps + 1, taken => do
    match ← m.next? it with
    | none => return taken
    | some v => drain it steps (taken.push v)

/-- All items that a loop over a value goes through. -/
def items (v : Value) : Prog (Array Value) := do
  m.drain (← m.iter v) loopBound #[]

/-- A list for which there is no memory is longer than this. -/
def memoryBound : Int := powerOfTwo 34

/-- The number of items that an iterator expects to give. Only one that asks an instance for its
items by number has to ask for their number, and there may be none to ask. -/
def iteratorHint (r : Ref .iterator) : Prog (Option Int) := do
  match ← viewing (fun w => w.iterators.get r) with
  | .items target i =>
    if ← hasHook target "__len__" then
      return some (max 0 (Int.ofNat (← m.length target) - Int.ofNat i))
    else return none
  | _ => return some 0

/-- Let a hook that cannot answer be one that does not. -/
def unlessWrongType {α : Type} (p : Prog (Option α)) : Prog (Option α) :=
  tryCatch p (fun f => if f.isCatchable && f.kind.isA .typeError then return none else throw f)

/-- The number that the hook for it expects, which has to be a size. -/
def hookedHint (v : Value) : Prog Int := do
  match ← unlessWrongType (m.askHook? v "__length_hint__" []) with
  | none | some .notImplemented => return 0
  | some r =>
    match plainInt? r with
    | none => wrongType
    | some n =>
      if n < -maxLength - 1 ∨ maxLength < n then plainFault .overflowError
      else if n < 0 then plainFault .valueError
      else return n

/-- The number of items that a value expects to give. It is only asked for, to see that it makes
sense. -/
def lengthHint (v : Value) : Prog Int := do
  match v with
  | .iterator r => return (← unlessWrongType (m.iteratorHint r)).getD 0
  | v =>
    let length? ← unlessWrongType
      (do
        if (← plainLength? v).isSome || (← hasHook v "__len__") then
          return some (Int.ofNat (← m.length v))
        else return none)
    match length? with
    | some n => return n
    | none => m.hookedHint v

/-- Take up the items of a value at the end of a list, with the number it expects asked first. A
number with which the list could have no length is ignored. -/
def appendItemsOf (r : Ref .list) (v : Value) : Prog Unit := do
  let it ← m.iter v
  let expected ← m.lengthHint v
  let size ← (Sequence.list r).size
  if expected ≤ maxLength - size && memoryBound < size + expected then plainFault .memoryError
  else each it loopBound
where
  each (it : Value) : Nat → Prog Unit
    | 0 => throw .exhausted
    | steps + 1 => do
      match ← m.next? it with
      | none => return ()
      | some item => do
        changeList r (fun items => items.push item)
        each it steps

/-- A new list of the items of a value. -/
def listOf (v : Value) : Prog (Ref .list) := do
  match ← newList #[] with
  | .list r => do
    match v with
    | .list s => do
      let items ← listItems s
      changeList r (fun _ => items)
    | .tuple s => do
      let items ← tupleItems s
      changeList r (fun _ => items)
    | v => m.appendItemsOf r v
    return r
  | _ => throw .dangling

/-- The items of a value as a tuple. A tuple is one already. -/
def tupleOf (v : Value) : Prog (Ref .tuple) := do
  match v with
  | .tuple r => return r
  | v => do
    let items ← listItems (← m.listOf v)
    match ← newTuple items with
    | .tuple r => return r
    | _ => throw .dangling

/-- The items of a value that is wanted as a sequence. -/
def sequenceItems (v : Value) : Prog (List Value) := do
  match v with
  | .list r => return (← listItems r).toList
  | .tuple r => return (← tupleItems r).toList
  | v => do
    let it ← withoutMessage .typeError (m.iter v)
    return (← listItems (← m.listOf it)).toList

/-- Take a value apart into exactly two items. -/
def pairOf (v : Value) : Prog (Value × Value) := do
  let two : List Value → Prog (Value × Value)
    | [a, b] => return (a, b)
    | _ => plainFault .valueError
  match v with
  | .list r => two (← listItems r).toList
  | .tuple r => two (← tupleItems r).toList
  | v => do
    let it ← m.iter v
    match ← m.next? it with
    | none => plainFault .valueError
    | some a =>
      match ← m.next? it with
      | none => plainFault .valueError
      | some b =>
        match ← m.next? it with
        | none => return (a, b)
        | some _ => plainFault .valueError

/-- Look for a value among the items that an iterator still gives. -/
def search (v it : Value) : Nat → Prog Bool
  | 0 => throw .exhausted
  | steps + 1 => do
    match ← m.next? it with
    | none => return false
    | some item => if ← m.equal item v then return true else search v it steps

/-- Look for a value in a sequence from place `i` on. -/
def searchSequence (v : Value) (s : Sequence) : Nat → Nat → Prog Bool
  | 0, _ => throw .exhausted
  | steps + 1, i => do
    match ← s.item? i with
    | none => return false
    | some item => if ← m.equal item v then return true else searchSequence v s steps (i + 1)

/-- Whether `part` stands somewhere within `whole`. -/
def isWithin (part : List Char) : List Char → Bool
  | [] => part.isEmpty
  | c :: cs => part.isPrefixOf (c :: cs) || isWithin part cs

/-- Membership: by key, by text, by the hook, or else by going through the items. -/
def contained (v container : Value) : Prog Bool := do
  match ← m.holderFor container v with
  | .text s =>
    match v with
    | .text part => return isWithin part.toList s.toList
    | _ => wrongType
  | .list r => m.searchSequence v (.list r) loopBound 0
  | .tuple r => m.searchSequence v (.tuple r) loopBound 0
  | .catalog c => seeing (fun h => (h.importClass c v).isOk)
  | container =>
    match TableRef.ofValue? container with
    | some t => m.containsKey t v
    | none =>
      match ← m.askHook? container "__contains__" [v] with
      | some r => m.truth r
      | none => do
        let it ← withoutMessage .typeError (m.iter container)
        m.search v it loopBound

end Machine

end ObjectModel.Script
