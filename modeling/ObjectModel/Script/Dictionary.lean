import ObjectModel.Value

/-!
# Dictionaries

A dictionary keeps its entries in the order in which their keys came, each with the code by which
its key is looked up. A removed entry leaves a hole, so that the places of the others stay. When
no place is left the holes go, and the dictionary gets places for three times its entries.

The places are found through a table whose size is a power of two. The code of a key says where to
look first and where to go on from there, until a cell is free; with more and more of the code's
bits used up, every cell comes up. Cells may come up more than once on the way.
-/

namespace ObjectModel.Script

structure Entry where
  code : Int
  key : Value
  value : Value
  deriving Inhabited

/-- A cell of the table of a dictionary. -/
inductive Cell where
  | free
  /-- Here was the place of an entry that is gone. -/
  | gone
  | place (i : Nat)
  deriving DecidableEq, Inhabited

structure Dict where
  slots : Array (Option Entry)
  size : Nat
  /-- How many places are left. -/
  room : Nat
  cells : Array Cell
  /-- Whether all keys are texts. -/
  isText : Bool
  /-- How often the cells were made anew. -/
  generation : Nat

namespace Dict

def empty : Dict := ⟨#[], 0, 0, #[], true, 0⟩

instance : Inhabited Dict := ⟨empty⟩

def entries (d : Dict) : List Entry := d.slots.toList.filterMap id

/-- The smallest power of two that is at least eight and not below `n`. -/
def capacity (n : Nat) : Nat := if n ≤ 8 then 8 else powerOfTwo ((n - 1).log2 + 1)

/-- Two thirds of the cells may be taken. -/
def places (capacity : Nat) : Nat := 2 * capacity / 3

/-- A position on the way through the cells, with what is left of the code. -/
structure Probe where
  at_ : UInt64
  rest : UInt64

namespace Probe

def start (mask : UInt64) (code : Int) : Probe :=
  let code := UInt64.ofNat (code % powerOfTwo 64).toNat
  ⟨code &&& mask, code⟩

def next (mask : UInt64) (p : Probe) : Probe :=
  let rest := p.rest >>> 5
  ⟨(p.at_ * 5 + rest + 1) &&& mask, rest⟩

end Probe

def mask (d : Dict) : UInt64 := UInt64.ofNat (d.cells.size - 1)

/-- After so many steps every cell has come up. -/
def probeSteps (d : Dict) : Nat := d.cells.size + 16

def cellAt (d : Dict) (p : Probe) : Cell := d.cells.getD p.at_.toNat .free

def entryAt? (d : Dict) (i : Nat) : Option Entry := (d.slots[i]?).join

/-- A key that comes up in a search, with its place and the position behind it. -/
structure Candidate where
  key : Value
  place : Nat
  next : Probe

/-- The first key with the code that comes up from a position on, as far as the next free cell. -/
def candidateFrom? (d : Dict) (code : Int) : Nat → Probe → Option Candidate
  | 0, _ => none
  | steps + 1, p =>
    let next := p.next d.mask
    match d.cellAt p with
    | .free => none
    | .gone => d.candidateFrom? code steps next
    | .place i =>
      match d.entryAt? i with
      | some e => if e.code = code then some ⟨e.key, i, next⟩ else d.candidateFrom? code steps next
      | none => d.candidateFrom? code steps next

/-- The next candidate of a search that has come to a position, or that is about to start. -/
def candidate? (d : Dict) (code : Int) (p : Option Probe) : Option Candidate :=
  d.candidateFrom? code d.probeSteps (p.getD (.start d.mask code))

/-- The first cell from a position on that holds no place. -/
def openCell (d : Dict) : Nat → Probe → Nat
  | 0, p => p.at_.toNat
  | steps + 1, p =>
    match d.cellAt p with
    | .place _ => d.openCell steps (p.next d.mask)
    | _ => p.at_.toNat

/-- Put an entry behind the others. -/
def append (d : Dict) (e : Entry) : Dict :=
  let cell := d.openCell d.probeSteps (.start d.mask e.code)
  { d with
    cells := d.cells.setIfInBounds cell (.place d.slots.size)
    slots := d.slots.push (some e)
    size := d.size + 1
    room := d.room - 1 }

def withCapacity (n : Nat) (isText : Bool) (generation : Nat) : Dict :=
  { slots := #[], size := 0, room := places n, cells := Array.replicate n .free
    isText, generation }

/-- Close the holes and make room. -/
def grown (d : Dict) (isText : Bool) : Dict :=
  d.entries.foldl append (withCapacity (capacity (3 * d.size)) isText (d.generation + 1))

/-- What a dictionary is when it becomes like another. -/
def replacedBy (d e : Dict) : Dict := { e with generation := d.generation + 1 }

/-- Whether a place still holds a key, in a dictionary whose cells were not made anew since. -/
def stillHolds (d : Dict) (generation i : Nat) (key : Value) : Bool :=
  d.generation == generation && (d.entryAt? i).any (fun e => e.key == key)

/-- Make ready for a key. A dictionary that held nothing but texts makes room for the first key
that is none. -/
def readied (d : Dict) (key : Value) : Dict :=
  match d.isText, key with
  | true, .text _ => d
  | true, _ => if d.cells.isEmpty then { d with isText := false } else d.grown false
  | false, _ => d

/-- Add an entry with a new key. -/
def push (d : Dict) (e : Entry) : Dict :=
  let d := d.readied e.key
  let d := if d.room = 0 then d.grown d.isText else d
  d.append e

def ofEntries (es : List Entry) : Dict := es.foldl push empty

def setValueAt (d : Dict) (i : Nat) (v : Value) : Dict :=
  { d with slots := d.slots.modify i (fun e => e.map (fun e => { e with value := v })) }

/-- The first cell from a position on that holds a place. -/
def cellOf (d : Dict) (i : Nat) : Nat → Probe → Nat
  | 0, p => p.at_.toNat
  | steps + 1, p =>
    if d.cellAt p = .place i then p.at_.toNat else d.cellOf i steps (p.next d.mask)

def removeAt (d : Dict) (i : Nat) : Dict :=
  match d.entryAt? i with
  | some e =>
    let cell := d.cellOf i d.probeSteps (.start d.mask e.code)
    { d with
      slots := d.slots.setIfInBounds i none
      size := d.size - 1
      cells := d.cells.setIfInBounds cell .gone }
  | none => d

/-- The first entry from place `i` on, with the place behind it. -/
def nextFrom (d : Dict) (i : Nat) : Option (Entry × Nat) :=
  if h : i < d.slots.size then
    match d.slots[i] with
    | some e => some (e, i + 1)
    | none => d.nextFrom (i + 1)
  else none
termination_by d.slots.size - i

end Dict

end ObjectModel.Script
