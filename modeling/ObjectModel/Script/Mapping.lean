import ObjectModel.Script.Attributes

/-!
# Tables from other values

A dictionary can be filled from whatever can be read as a table: from a table; from a value that
names its keys, whose values are then asked for one by one; and else from pairs of a key and a
value.
-/

namespace ObjectModel.Script.Machine

variable (m : Machine)

/-- The keys that a value names, as a list. -/
def namedKeys (v : Value) : Prog (Ref .list) := do
  let keys ← m.callMember v "keys" []
  let it ← withoutMessage .typeError (m.iter keys)
  m.listOf it

/-- Ask for the value of every key from place `i` of a list on. -/
def fillByKeys (t : TableRef) (v : Value) (keys : Ref .list) : Nat → Nat → Prog Unit
  | 0, _ => throw .exhausted
  | steps + 1, i => do
    match ← (Sequence.list keys).item? i with
    | none => return ()
    | some key => do
      let value ← m.getItem v key
      m.setItem t key value
      fillByKeys t v keys steps (i + 1)

/-- Fill a table from the pairs that an iterator still gives. -/
def fillByPairs (t : TableRef) (it : Value) : Nat → Prog Unit
  | 0 => throw .exhausted
  | steps + 1 => do
    match ← m.next? it with
    | none => return ()
    | some item => do
      match ← withoutMessage .typeError (m.sequenceItems item) with
      | [key, value] => do
        m.setItem t key value
        fillByPairs t it steps
      | _ => plainFault .valueError

/-- The keys of a view of the table of a declaration are looked up one by one. -/
def fillFromView (t u : TableRef) : List Entry → Prog Unit
  | [] => return ()
  | e :: rest => do
    match ← m.getItem? u e.key with
    | some v => m.setItem t e.key v
    | none => missingKey e.key
    fillFromView t u rest

/-- Write into a table what another value holds as a table. -/
def updateFrom (t : TableRef) (v : Value) : Prog Unit := do
  match v with
  | .dict r => m.update t (.own r)
  | .entries d => do
    let es ← tableEntries (.entries d)
    m.fillFromView t (.entries d) es
  | v => do
    if ← m.hasAttribute v (.text "keys") then
      m.fillByKeys t v (← m.namedKeys v) loopBound 0
    else m.fillByPairs t (← m.iter v) loopBound

/-- A new dictionary of what a value holds as a table. -/
def dictOf (v : Value) : Prog (Ref .dict) := do
  let r ← newDict .empty
  m.updateFrom (.own r) v
  return r

end ObjectModel.Script.Machine
