import ObjectModel.Script.Lookup

/-!
# Comparison

A comparison asks the left operand and then, with the mirrored operator, the right one. An operand
without an answer says `NotImplemented`. What neither decides is decided by identity for equality
and is a fault for order. Sequences are compared item by item, and two tables are equal if they
hold equal values under the same keys. While this goes on the sequences may change, so items are
always taken from them as they are.
-/

namespace ObjectModel.Script

/-- A sequence of which items are taken by number. -/
inductive Sequence where
  | list (r : Ref .list)
  | tuple (r : Ref .tuple)

namespace Sequence

def size : Sequence → Prog Nat
  | .list r => viewing (fun w => (w.lists.get r).size)
  | .tuple r => viewing (fun w => (w.tuples.get r).size)

def item? (s : Sequence) (i : Nat) : Prog (Option Value) :=
  match s with
  | .list r => viewing (fun w => (w.lists.get r)[i]?)
  | .tuple r => viewing (fun w => (w.tuples.get r)[i]?)

end Sequence

/-- How two numbers compare, unless one is no number. -/
def orderNumbers? (v w : Value) : Option (Option Ordering) :=
  match v.canonical, w.canonical with
  | .int a, .int b => some (some (Ord.compare a b))
  | .float x _, .int b => some (orderFloatInt x b)
  | .int a, .float y _ => some ((orderFloatInt y a).map Ordering.swap)
  | .float x _, .float y _ =>
    let (x, y) := (x.toFloat, y.toFloat)
    some (if x < y then some .lt else if y < x then some .gt else if x == y then some .eq else none)
  | _, _ => none
where
  orderFloatInt (x : Binary64) (n : Int) : Option Ordering :=
    if x.isNaN then none
    else if x.isInfinite then some (if x.isNegative then .lt else .gt)
    else some (x.compareInt n)

def isComplex : Value → Bool
  | .complex _ _ => true
  | _ => false

/-- Whether two numbers are equal, of which at least one is complex. -/
def equalComplex? (v w : Value) : Option Bool :=
  match v.canonical, w.canonical with
  | .complex a _, .complex b _ =>
    some (a.re.toFloat == b.re.toFloat && a.im.toFloat == b.im.toFloat)
  | .complex _ _, .int _ | .complex _ _, .float _ _ | .int _, .complex _ _
  | .float _ _, .complex _ _ => some false
  | v, w => (orderNumbers? v w).map (fun o => o == some .eq)

namespace Machine

variable (m : Machine)

/-- An answer to the two questions of equality; order has none. -/
def equality (op : CompareOp) (eq : Prog Bool) : Prog Value := do
  match op with
  | .eq => return .bool (← eq)
  | .ne => return .bool (!(← eq))
  | _ => return .notImplemented

/-- The first place, from `i` on, at which two sequences differ, or the end of one. -/
def differenceFrom (s t : Sequence) : Nat → Nat → Prog Nat
  | 0, _ => throw .exhausted
  | steps + 1, i => do
    match ← s.item? i, ← t.item? i with
    | some v, some w => if ← m.equal v w then differenceFrom s t steps (i + 1) else return i
    | _, _ => return i

/-- Compare two sequences. Lists of different lengths are unequal without a look at their items.
Where the first difference was, the sequences may have come to an end meanwhile, and then their
lengths decide. -/
def compareSequences (op : CompareOp) (s t : Sequence) (byLength : Bool) : Prog Value := do
  let isEquality := op = .eq ∨ op = .ne
  if byLength && isEquality && (← s.size) ≠ (← t.size) then return .bool (op = .ne)
  else
    let i ← m.differenceFrom s t loopBound 0
    match ← s.item? i, ← t.item? i with
    | some v, some w =>
      match op with
      | .eq => return .bool false
      | .ne => return .bool true
      | _ => m.compare op v w
    | _, _ => return .bool (op.holds (Ord.compare (← s.size) (← t.size)))

/-- Whether every entry of `t`, from place `i` on, has an equal value under the same key in `u`. -/
def entriesWithin (t u : TableRef) : Nat → Nat → Prog Bool
  | 0, _ => throw .exhausted
  | steps + 1, i => do
    match ← nextEntry t i with
    | none => return true
    | some (e, next) =>
      match ← m.findEntry u e.code e.key with
      | none => return false
      | some f =>
        if ← m.equal e.value f.value then entriesWithin t u steps next
        else return false

def equalTables (t u : TableRef) : Prog Bool := do
  if (← tableSize t) ≠ (← tableSize u) then return false
  else m.entriesWithin t u loopBound 0

def allEqual : List (Value × Value) → Prog Bool
  | [] => return true
  | (v, w) :: rest => do
    if ← m.equal v w then allEqual rest
    else return false

/-- The fields by which definitions are compared, in order. -/
def definitionFields (d : Ref .definition) : Prog (List Value) :=
  ["name", "statics", "private_methods", "public_methods", "operators", "parent"].mapM
    (m.read (.definition d))

/-- The fields by which declarations are compared. Two declarations of different sorts have none
in common. -/
def declarationFields? (h : Heap) (a b : Ref .declaration) : Option (List (Value × Value)) :=
  match h.declarations.get a, h.declarations.get b with
  | .parent p, .parent q => some [(p, q)]
  | .members p _, .members q _ =>
    some [(.text p.name, .text q.name), (.entries a, .entries b)]
  | _, _ => none

def equalMethods (a b : BoundMethod) : Prog Bool := do
  let sameCallee ← match a.callee, b.callee with
    | .function f, .function g => m.equal f g
    | c, d => pure (decide (c = d))
  return sameCallee && isSame a.receiver b.receiver

/-- What neither side of a comparison decides. -/
def undecided (op : CompareOp) (v w : Value) : Prog Value :=
  match op with
  | .eq => return .bool (isSame v w)
  | .ne => return .bool (!isSame v w)
  | _ => wrongType

/-- What a table says about another value. A view of the table of a declaration is compared by
what is behind it, and the other side of the comparison then speaks first. -/
def tableAnswer (op : CompareOp) (v w : Value) (mirrored : Prog Value) : Prog Value := do
  match v, w, TableRef.ofValue? v, TableRef.ofValue? w with
  | .entries a, .entries b, _, _ => equality op (m.equalTables (.entries b) (.entries a))
  | .entries a, _, _, some u => equality op (m.equalTables (.entries a) u)
  | .entries _, _, _, none =>
    match ← mirrored with
    | .notImplemented => undecided op v w
    | r => return r
  | _, .entries _, _, _ => return .notImplemented
  | _, _, some t, some u => equality op (m.equalTables t u)
  | _, _, _, _ => return .notImplemented

/-- What an instance says about another value. Without a hook for inequality it denies its own
answer to equality. -/
def hookAnswer (op : CompareOp) (v w : Value) : Prog Value := do
  match ← m.askHook? v op.hook [w] with
  | some r => return r
  | none =>
    match op with
    | .ne =>
      match ← m.askHook? v CompareOp.eq.hook [w] with
      | some .notImplemented => return .notImplemented
      | some r => return .bool (!(← m.truth r))
      | none => if isSame v w then return .bool false else return .notImplemented
    | .eq => if isSame v w then return .bool true else return .notImplemented
    | _ => return .notImplemented

/-- Complex numbers have no order. -/
def complexAnswer (op : CompareOp) (v w : Value) : Prog Value :=
  match equalComplex? v w with
  | some b => equality op (return b)
  | none => return .notImplemented

/-- What a value that has no hooks says about another. -/
def plainAnswer (op : CompareOp) (v w : Value) : Prog Value := do
  if isComplex v || isComplex w then complexAnswer op v w
  else
    match orderNumbers? v w with
    | some (some o) => return .bool (op.holds o)
    | some none => return .bool (op = .ne)
    | none =>
      match v, w with
      | .text a, .text b => return .bool (op.holds (compareOfLessAndEq a b))
      | .list r, .list s => m.compareSequences op (.list r) (.list s) true
      | .tuple r, .tuple s => m.compareSequences op (.tuple r) (.tuple s) false
      | .dict _, _ => m.tableAnswer op v w (return .notImplemented)
      | .entries _, w => m.tableAnswer op v w (match w with
          | .state _ | .facade _ => m.hookAnswer op.mirror w v
          | _ => return .notImplemented)
      | .method r, .method s => equality op (do
          m.equalMethods (← viewing (fun w => w.methods.get r))
            (← viewing (fun w => w.methods.get s)))
      | .definition r, .definition s => equality op (do
          m.allEqual ((← m.definitionFields r).zip (← m.definitionFields s)))
      | .declaration r, .declaration s =>
        match ← seeing (fun h => declarationFields? h r s) with
        | some fields => equality op (m.allEqual fields)
        | none => return .notImplemented
      | _, _ => if isSame v w then equality op (return true) else return .notImplemented

/-- What the left side of a comparison says. -/
def answer (op : CompareOp) (v w : Value) : Prog Value :=
  match v with
  | .state _ | .facade _ => m.hookAnswer op v w
  | v => m.plainAnswer op v w

/-- Compare two values. The result is whatever the side that decides gives. -/
def compareStep (op : CompareOp) (v w : Value) : Prog Value := do
  match ← m.answer op v w with
  | .notImplemented =>
    match ← m.answer op.mirror w v with
    | .notImplemented => undecided op v w
    | r => return r
  | r => return r

end Machine

end ObjectModel.Script
