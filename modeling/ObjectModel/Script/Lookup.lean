import ObjectModel.Script.Machine

/-!
# Looking up keys

A key is found by an equal code and by being the same thing or comparing as equal, where the key
that is in the table is asked first. Comparing may change the table; if its cells were made anew, or
the key is gone, the search starts again.
-/

namespace ObjectModel.Script

def codeOfKey : Key → Int
  | .text s => KeyCode.ofText s
  | .value _ code => code

/-- The entries of a table of the model. -/
def entriesOfTable (t : Table Key Value) : List Entry :=
  t.entries.map (fun e => ⟨codeOfKey e.1, e.1.toValue, e.2⟩)

/-- See something of a table. The table of a declaration stays as it was written down. -/
def seeTable {α : Type} (t : TableRef) (f : Dict → α) : Prog α :=
  match t with
  | .own r => viewing (fun w => f (w.dicts.get r))
  | .entries d => seeing (fun h => f (Dict.ofEntries (entriesOfTable (declaredTable h d))))

def entryAt? (t : TableRef) (i : Nat) : Prog (Option Entry) :=
  match t with
  | .own r => viewing (fun w => (w.dicts.get r).entryAt? i)
  | .entries d => seeing (fun h =>
      ((declaredTable h d).entries[i]?).map (fun e => ⟨codeOfKey e.1, e.1.toValue, e.2⟩))

/-- The first entry from a place on, with the place behind it. -/
def nextEntry (t : TableRef) (i : Nat) : Prog (Option (Entry × Nat)) :=
  match t with
  | .own r => viewing (fun w => (w.dicts.get r).nextFrom i)
  | t => do return (← entryAt? t i).map (fun e => (e, i + 1))

/-- All entries of a table as it is now. -/
def tableEntries (t : TableRef) : Prog (List Entry) :=
  match t with
  | .own r => viewing (fun w => (w.dicts.get r).entries)
  | .entries d => seeing (fun h => entriesOfTable (declaredTable h d))

/-- How far the places of a table go. -/
def extent (t : TableRef) : Prog Nat := seeTable t (fun d => d.slots.size)

/-- Change a dictionary. -/
def changeTable (t : TableRef) (f : Dict → Dict) : Prog Unit :=
  match t with
  | .own r => changeDict r f
  | .entries _ => wrongType

/-- A new dictionary of plain keys, of which none comes twice. -/
def newPlainDict (es : List (String × Value)) : Prog Value := do
  return .dict (← newDict (Dict.ofEntries (es.map (fun e =>
    ⟨KeyCode.ofText e.1, .text e.1, e.2⟩))))

namespace Machine

variable (m : Machine)

/-- What a search among the keys with the right code comes to. -/
inductive Search where
  | found (i : Nat)
  | missing
  /-- The table was changed meanwhile. -/
  | disturbed

/-- Go on searching from a position, or start. Only the key that is in the table is told from the
one that is looked for by asking. -/
def searchFrom (t : TableRef) (code : Int) (key : Value) (generation : Nat) :
    Nat → Option Dict.Probe → Prog Search
  | 0, _ => throw .exhausted
  | steps + 1, p => do
    match ← seeTable t (fun d => d.candidate? code p) with
    | none => return .missing
    | some c =>
      match if isSame c.key key then some true else plainEqual? c.key key with
      | some true => return .found c.place
      | some false => searchFrom t code key generation steps (some c.next)
      | none =>
        let same ← m.equal c.key key
        if ← seeTable t (fun d => d.stillHolds generation c.place c.key) then
          if same then return .found c.place
          else searchFrom t code key generation steps (some c.next)
        else return .disturbed

def findWithin (t : TableRef) (code : Int) (key : Value) : Nat → Prog (Option Nat)
  | 0 => throw .exhausted
  | steps + 1 => do
    let generation ← seeTable t (fun d => d.generation)
    match ← m.searchFrom t code key generation loopBound none with
    | .found i => return some i
    | .missing => return none
    | .disturbed => findWithin t code key steps

/-- The place of a key whose code is known. -/
def findPlace (t : TableRef) (code : Int) (key : Value) : Prog (Option Nat) :=
  m.findWithin t code key loopBound

/-- The entry of a key whose code is known. -/
def findEntry (t : TableRef) (code : Int) (key : Value) : Prog (Option Entry) := do
  match ← m.findPlace t code key with
  | some i => entryAt? t i
  | none => return none

/-- Give a key whose code is known a value. -/
def insert (t : TableRef) (e : Entry) : Prog Unit := do
  changeTable t (fun d => d.readied e.key)
  match ← m.findPlace t e.code e.key with
  | some i => changeTable t (fun d => d.setValueAt i e.value)
  | none => changeTable t (fun d => d.push e)

/-- Give a key a value. -/
def setItem (t : TableRef) (key v : Value) : Prog Unit := do
  m.insert t ⟨← m.code key, key, v⟩

def getItem? (t : TableRef) (key : Value) : Prog (Option Value) := do
  return (← m.findEntry t (← m.code key) key).map Entry.value

def containsKey (t : TableRef) (key : Value) : Prog Bool := do
  return (← m.findPlace t (← m.code key) key).isSome

def deleteItem (t : TableRef) (key : Value) : Prog Unit := do
  match ← m.findPlace t (← m.code key) key with
  | some i => changeTable t (fun d => d.removeAt i)
  | none => missingKey key

def insertAll (t source : TableRef) (size : Nat) : List Entry → Prog Unit
  | [] => return ()
  | e :: rest => do
    m.insert t e
    if (← extent source) ≠ size then plainFault .runtimeError
    else insertAll t source size rest

/-- The dictionary that a table without holes is. -/
def asDict? (t : TableRef) : Prog (Option Dict) := do
  match t with
  | .own r => viewing (fun w =>
      let d := w.dicts.get r
      if d.size = d.slots.size then some d else none)
  | t => return some (Dict.ofEntries (← tableEntries t))

/-- Write the entries of one table into another. The source has to stay as it is. -/
def update (t source : TableRef) : Prog Unit := do
  if t = source then return ()
  else
    match t, ← tableSize t, ← asDict? source with
    | .own r, 0, some d => changeDict r (fun old => old.replacedBy d)
    | t, _, _ => m.insertAll t source (← extent source) (← tableEntries source)

/-- A new dictionary with the entries of a table. -/
def copyTable (t : TableRef) : Prog (Ref .dict) := do
  let r ← newDict .empty
  m.update (.own r) t
  return r

end Machine

end ObjectModel.Script
