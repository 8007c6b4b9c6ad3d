import ObjectModel.Script.Comparison

/-!
# Putting values in order

Texts and integers are sorted as they are. Other values are asked whether one comes before another:
first for the run at the start that is in order, or in strictly falling order and then turned
around, and then for each further value by halving, to find its place behind the values that do not
come after it.
-/

namespace ObjectModel.Script.Machine

variable (m : Machine)

/-- How the question whether one value comes before another is put. -/
inductive Asking where
  /-- All values are instances with the same hooks, so the left one's hook is asked directly. -/
  | hook
  | compare

/-- Whether all values are the same view of instances of one class. -/
def sameViews (h : Heap) : List Value → Bool
  | [] => false
  | .state s :: rest => rest.all (fun
    | .state t => h.stateClass s == h.stateClass t
    | _ => false)
  | .facade f :: rest => rest.all (fun
    | .facade g => h.facadeClass f == h.facadeClass g
    | _ => false)
  | _ => false

def isBefore (asking : Asking) (v w : Value) : Prog Bool := do
  match asking with
  | .hook =>
    match ← m.hookAnswer .lt v w with
    | .notImplemented => m.truth (← m.compare .lt v w)
    | r => m.truth r
  | .compare => m.truth (← m.compare .lt v w)

/-- Split off the values that go on rising, or on falling, from the last one on. -/
def runFrom (asking : Asking) (falling : Bool) (last : Value) :
    List Value → Prog (List Value × List Value)
  | [] => return ([], [])
  | v :: rest => do
    if (← m.isBefore asking v last) = falling then
      let (run, left) ← runFrom asking falling v rest
      return (v :: run, left)
    else return ([], v :: rest)

/-- The place of a value between `low` and `high` among values in order. -/
def placeBetween (asking : Asking) (v : Value) (sorted : Array Value) :
    Nat → Nat → Nat → Prog Nat
  | 0, low, _ => return low
  | steps + 1, low, high => do
    if high ≤ low then return low
    else
      let middle := low + (high - low) / 2
      if ← m.isBefore asking v (sorted.getD middle default) then
        placeBetween asking v sorted steps low middle
      else placeBetween asking v sorted steps (middle + 1) high

def insertAllSorted (asking : Asking) (sorted : Array Value) : List Value → Prog (Array Value)
  | [] => return sorted
  | v :: rest => do
    let i ← m.placeBetween asking v sorted (sorted.size + 1) 0 sorted.size
    insertAllSorted asking ((sorted.toList.take i ++ v :: sorted.toList.drop i).toArray) rest

def sortByAsking (asking : Asking) : List Value → Prog (List Value)
  | v :: w :: rest => do
    let falling ← m.isBefore asking w v
    let (run, left) ← m.runFrom asking falling w rest
    let start := v :: w :: run
    let sorted ← m.insertAllSorted asking (if falling then start.reverse else start).toArray left
    return sorted.toList
  | vs => return vs

/-- Put values in order. -/
def sorted (vs : List Value) : Prog (List Value) := do
  let keys := vs.map (fun v => Key.ofValue v 0)
  match sortKeys? keys with
  | some keys => return keys.map Key.toValue
  | none =>
    let asking := if ← seeing (fun h => sameViews h vs) then Asking.hook else .compare
    m.sortByAsking asking vs

end ObjectModel.Script.Machine
