import ObjectModel.Script.Mapping
import ObjectModel.Script.Pattern

/-!
# Operators

A binary operator asks the left operand's hook and then, if the two operands are of different
types, the reflected hook of the right one. An answer `NotImplemented` counts as none. Numbers,
tables and patterns answer as their types say, and where nobody does sequences are joined and
repeated. The in-place form asks a hook of its own first, and changes lists and dictionaries where
they are.
-/

namespace ObjectModel.Script.Machine

variable (m : Machine)

/-- Whether two values are of the same type as far as reflected hooks are concerned: the two
views of a class have types of their own. -/
def sameType (h : Heap) : Value → Value → Bool
  | .state s, .state t => h.stateClass s == h.stateClass t
  | .facade f, .facade g => h.facadeClass f == h.facadeClass g
  | _, _ => false

/-- The number by which a sequence is to be repeated. -/
def repetitions (v : Value) : Prog Int := do
  if (plainInt? v).isNone && !(← hasHook v "__index__") then wrongType
  else
    let n ← m.index v
    if n < -maxLength - 1 ∨ maxLength < n then plainFault .overflowError else return n

/-- How often a sequence of the given length is repeated. Less than nothing counts as nothing. -/
def boundedRepetitions (n : Int) (size : Nat) : Prog Nat :=
  if size = 0 then return 0
  else if Text.maxLength < n * size then plainFault .memoryError
  else return n.toNat

/-- `n` copies of an array, one after another. -/
def repeated (n : Nat) (items : Array Value) : Array Value :=
  Nat.fold n (fun _ _ all => all ++ items) (Array.emptyWithCapacity (n * items.size))

/-- `n` copies of a text, one after another. -/
def repeatedText (s : String) (n : Nat) : String :=
  if n = 0 then ""
  else
    let half := repeatedText s (n / 2)
    if n % 2 = 0 then half ++ half else half ++ half ++ s
termination_by n

def isSequence : Value → Bool
  | .text _ | .list _ | .tuple _ => true
  | _ => false

/-- Repeat a sequence, as it is once the number is known. -/
def repeatSequence (v n : Value) : Prog Value := do
  if !isSequence v then wrongType
  else
    let n ← m.repetitions n
    match v with
    | .text s => do return .text (repeatedText s (← boundedRepetitions n s.length))
    | .list r => do
      let items ← listItems r
      newList (repeated (← boundedRepetitions n items.size) items)
    | .tuple r => do
      let items ← tupleItems r
      newTuple (repeated (← boundedRepetitions n items.size) items)
    | _ => wrongType

/-- Join two sequences of one sort. -/
def joinSequences (v w : Value) : Prog Value := do
  match v, w with
  | .text s, .text t => return .text (s ++ t)
  | .list r, .list s => newList ((← listItems r) ++ (← listItems s))
  | .tuple r, .tuple s => newTuple ((← tupleItems r) ++ (← tupleItems s))
  | _, _ => wrongType

/-- What is done with sequences that nobody answers for. -/
def sequenceBinary (op : BinaryOp) (v w : Value) : Prog Value :=
  match op with
  | .add => joinSequences v w
  | .mul => if isSequence v then m.repeatSequence v w else m.repeatSequence w v
  | _ => wrongType

/-- The two tables in one. A view of the table of a declaration stands for what is behind it. -/
def joinTables? (v w : Value) : Option (Prog Value) :=
  match TableRef.ofValue? v, TableRef.ofValue? w with
  | some t, some u => some (do
    let r ← m.copyTable t
    m.update (.own r) u
    return .dict r)
  | _, _ => none

/-- What the left operand says, if it is no instance. -/
def leftAnswer? (op : BinaryOp) (v w : Value) : Option (Prog Value) :=
  match op, v with
  | .mod, .text s => some (m.fillPattern s w)
  | .or, v =>
    match m.joinTables? v w with
    | some p => some p
    | none => numberBinary? .or v w
  | op, v => numberBinary? op v w

/-- Do what the operands say, or `otherwise` if nobody answers. -/
def binaryOr (op : BinaryOp) (v w : Value) (otherwise : Prog Value) : Prog Value := do
  match m.leftAnswer? op v w with
  | some p => p
  | none =>
    match ← m.askHook v op.hook [w] with
    | .notImplemented =>
      if ← seeing (fun h => sameType h v w) then wrongType
      else
        match ← m.askHook w op.reflectedHook [v] with
        | .notImplemented => otherwise
        | r => return r
    | r => return r

def binary (op : BinaryOp) (v w : Value) : Prog Value :=
  m.binaryOr op v w (m.sequenceBinary op v w)

/-- Change a list where it is, when nobody answers for it. -/
def changeInPlace (op : BinaryOp) (r : Ref .list) (w : Value) : Prog Value := do
  match op with
  | .add => do
    match w with
    | .list s => do
      let items ← listItems s
      changeList r (fun old => old ++ items)
    | .tuple s => do
      let items ← tupleItems s
      changeList r (fun old => old ++ items)
    | w => m.appendItemsOf r w
    return .list r
  | .mul => do
    let n ← m.repetitions w
    let count ← boundedRepetitions n (← (Sequence.list r).size)
    changeList r (fun old => repeated count old)
    return .list r
  | _ => wrongType

def inPlace (op : BinaryOp) (v w : Value) : Prog Value := do
  match op, v with
  | .or, .dict r => do
    m.updateFrom (.own r) w
    return v
  | .or, .entries _ => wrongType
  | .add, .list r | .mul, .list r =>
    match ← m.askHook w op.reflectedHook [v] with
    | .notImplemented => m.changeInPlace op r w
    | answer => return answer
  | _, _ =>
    match ← m.askHook v op.inPlaceHook [w] with
    | .notImplemented => m.binaryOr op v w (do
        if op = .mul && !isSequence v && (← mayHoldItems v) then wrongType
        else m.sequenceBinary op v w)
    | r => return r

def unary (op : UnaryOp) (v : Value) : Prog Value := do
  match numberUnary? op v with
  | some p => p
  | none =>
    match ← m.askHook? v op.hook [] with
    | some r => return r
    | none => wrongType

end ObjectModel.Script.Machine
