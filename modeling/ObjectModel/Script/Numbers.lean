import ObjectModel.Number.ComplexNumber
import ObjectModel.Script.Bits
import ObjectModel.Script.Iteration
import ObjectModel.Text.Digits

/-!
# Operators on numbers

Integers are exact, and the quotient of two of them is the nearest number with a fraction. Numbers
with a fraction follow the arithmetic of 64 bits; floor division and remainder are made to agree,
with the sign of the divisor. What is no real number is complex. Truth values are integers, but
the bitwise operators keep them among themselves.
-/

namespace ObjectModel.Script

/-- Integers with more bits than this do not fit into memory. -/
def maxBits : Nat := powerOfTwo 38

/-- An integer as a number with a fraction. -/
def toBinary64 (n : Int) : Prog Binary64 :=
  match Binary64.ofInt? n with
  | some x => return x
  | none => plainFault .overflowError

def newFloat (x : Float) : Prog Value := newNumber (.ofFloat x)

/-- Zero with a sign. -/
def signedZero (x : Float) : Float := if (Binary64.ofFloat x).isNegative then -0.0 else 0.0

def floatRemainder (x y : Float) : Float :=
  let r := (Binary64.remainder (.ofFloat x) (.ofFloat y)).toFloat
  let r := if (Binary64.ofFloat x).isFinite then
      (if (Binary64.ofFloat y).isFinite then r else if (Binary64.ofFloat y).isNaN then y else x)
    else 0.0 / 0.0
  r

/-- The floor of a quotient and the remainder that goes with it. -/
def floatDivMod (x y : Float) : Float × Float :=
  let r := floatRemainder x y
  let q := (x - r) / y
  let (q, r) :=
    if r == 0.0 then (q, signedZero y)
    else if (y < 0.0) != (r < 0.0) then (q - 1.0, r + y)
    else (q, r)
  let whole :=
    if q == 0.0 then signedZero (x / y)
    else
      let f := q.floor
      if q - f > 0.5 then f + 1.0 else f
  (whole, r)

def complexPower (z w : ComplexNumber) : Prog Value := do
  match z.power w with
  | .ok r => newComplex r
  | .error k => plainFault k

/-- A power. Of a negative number only the whole powers are real. -/
def floatPower (x y : Float) : Prog Value := do
  let (bx, b) := (Binary64.ofFloat x, Binary64.ofFloat y)
  if x == 0.0 && y < 0.0 && b.isFinite then plainFault .zeroDivisionError
  else
    if x < 0.0 && bx.isFinite && b.isFinite && b.integral?.isNone then
      complexPower (.ofReal bx) (.ofReal b)
    else
      let r := x.pow y
      if (Binary64.ofFloat r).isInfinite && bx.isFinite && b.isFinite then
        plainFault .overflowError
      else newFloat r

def floatBinary (op : BinaryOp) (x y : Float) : Prog Value := do
  match op with
  | .add => newFloat (x + y)
  | .sub => newFloat (x - y)
  | .mul => newFloat (x * y)
  | .truediv => if y == 0.0 then plainFault .zeroDivisionError else newFloat (x / y)
  | .floordiv =>
    if y == 0.0 then plainFault .zeroDivisionError else newFloat (floatDivMod x y).1
  | .mod =>
    if y == 0.0 then plainFault .zeroDivisionError else newFloat (floatDivMod x y).2
  | .divmod =>
    if y == 0.0 then plainFault .zeroDivisionError
    else
      let (q, r) := floatDivMod x y
      newTuple #[← newFloat q, ← newFloat r]
  | .pow => floatPower x y
  | _ => wrongType

/-- Integer powers. Powers of the three smallest integers are known without computing them. -/
def intPower (a b : Int) : Prog Value := do
  if b < 0 then
    floatPower (← toBinary64 a).toFloat (← toBinary64 b).toFloat
  else if a = 0 ∨ a = 1 then return .int (if b = 0 then 1 else a)
  else if a = -1 then return .int (if b % 2 = 0 then 1 else -1)
  else return .int (Int.pow a b.toNat)

def intShiftLeft (a b : Int) : Prog Value := do
  if b < 0 then plainFault .valueError
  else if a = 0 then return .int 0
  else if 30 * powerOfTwo 61 ≤ b then plainFault .overflowError
  else if maxBits < b then plainFault .memoryError
  else return .int (Bits.shiftLeft a b.toNat)

def intShiftRight (a b : Int) : Prog Value := do
  if b < 0 then plainFault .valueError
  else if (a.natAbs.log2 : Int) + 1 < b then return .int (if a < 0 then -1 else 0)
  else return .int (Bits.shiftRight a b.toNat)

/-- Integer division rounds down, and the remainder has the sign of the divisor. -/
def intBinary (op : BinaryOp) (a b : Int) : Prog Value := do
  match op with
  | .add => return .int (a + b)
  | .sub => return .int (a - b)
  | .mul => return .int (a * b)
  | .truediv =>
    if b = 0 then plainFault .zeroDivisionError
    else
      match Binary64.ofRatio? a b with
      | some x => newNumber x
      | none => plainFault .overflowError
  | .floordiv => if b = 0 then plainFault .zeroDivisionError else return .int (Int.fdiv a b)
  | .mod => if b = 0 then plainFault .zeroDivisionError else return .int (Int.fmod a b)
  | .divmod =>
    if b = 0 then plainFault .zeroDivisionError
    else newTuple #[.int (Int.fdiv a b), .int (Int.fmod a b)]
  | .pow => intPower a b
  | .matmul => wrongType
  | .lshift => intShiftLeft a b
  | .rshift => intShiftRight a b
  | .and => return .int (Bits.and a b)
  | .or => return .int (Bits.or a b)
  | .xor => return .int (Bits.xor a b)

/-- The bitwise operators keep truth values among themselves. -/
def boolBinary? (op : BinaryOp) (a b : Bool) : Option Bool :=
  match op with
  | .and => some (a && b)
  | .or => some (a || b)
  | .xor => some (a != b)
  | _ => none

/-- The operators that complex numbers have. -/
def complexBinary? (op : BinaryOp) : Option (ComplexNumber → ComplexNumber → Prog Value) :=
  match op with
  | .add => some (fun z w => newComplex (z.add w))
  | .sub => some (fun z w => newComplex (z.sub w))
  | .mul => some (fun z w => newComplex (z.mul w))
  | .truediv => some (fun z w =>
      match z.div? w with
      | some q => newComplex q
      | none => plainFault .zeroDivisionError)
  | .pow => some complexPower
  | _ => none

/-- A number as a complex one. -/
def toComplex? (v : Value) : Option (Prog ComplexNumber) :=
  match v with
  | .complex z _ => some (return z)
  | .float x _ => some (return .ofReal x)
  | v => (Machine.plainInt? v).map (fun n => do return .ofReal (← toBinary64 n))

/-- An operator on numbers of which at least one is complex. -/
def mixedBinary? (op : BinaryOp) (v w : Value) : Option (Prog Value) := do
  let f ← complexBinary? op
  let z ← toComplex? v
  let w ← toComplex? w
  return do f (← z) (← w)

/-- An operator on numbers, if the values are numbers. -/
def numberBinary? (op : BinaryOp) (v w : Value) : Option (Prog Value) :=
  match v, w with
  | .complex _ _, _ | _, .complex _ _ => mixedBinary? op v w
  | .bool a, .bool b =>
    match boolBinary? op a b with
    | some c => some (return .bool c)
    | none => some (intBinary op (if a then 1 else 0) (if b then 1 else 0))
  | .float x _, .float y _ => some (floatBinary op x.toFloat y.toFloat)
  | .float x _, w => (Machine.plainInt? w).map (fun b => do
      floatBinary op x.toFloat (← toBinary64 b).toFloat)
  | v, .float y _ => (Machine.plainInt? v).map (fun a => do
      floatBinary op (← toBinary64 a).toFloat y.toFloat)
  | v, w =>
    match Machine.plainInt? v, Machine.plainInt? w with
    | some a, some b => some (intBinary op a b)
    | _, _ => none

def intUnary (op : UnaryOp) (a : Int) : Int :=
  match op with
  | .neg => -a
  | .pos => a
  | .invert => -a - 1
  | .abs => Int.ofNat a.natAbs

/-- An operator on one number, if the value is a number that has it. -/
def numberUnary? (op : UnaryOp) (v : Value) : Option (Prog Value) :=
  match v, op with
  | .float _ _, .invert | .complex _ _, .invert => none
  | .float _ _, .pos | .complex _ _, .pos => some (return v)
  | .float x _, .neg => some (newFloat (-x.toFloat))
  | .float x _, .abs => some (newFloat x.toFloat.abs)
  | .complex z _, .neg => some (newComplex z.neg)
  | .complex z _, .abs => some (
    match z.modulus? with
    | some x => newNumber x
    | none => plainFault .overflowError)
  | v, op => (Machine.plainInt? v).map (fun a => return .int (intUnary op a))

/-- The digits at the start of a text; single underscores may stand between digits. -/
def digitsOf : List Char → Option (List Nat)
  | [c] => (Text.decimalDigit? c).map (fun d => [d])
  | c :: '_' :: cs => do
    let d ← Text.decimalDigit? c
    return d :: (← digitsOf cs)
  | c :: cs => do
    let d ← Text.decimalDigit? c
    return d :: (← digitsOf cs)
  | [] => none

/-- Read a decimal integer, with an optional sign and blanks around it. -/
def readInt? (s : String) : Option Int :=
  let core := ((s.toList.dropWhile Text.isBlank).reverse.dropWhile Text.isBlank).reverse
  let number (cs : List Char) : Option Int := do
    let ds ← digitsOf cs
    if ds.length > Text.maxDigits then none
    else return (ds.foldl (fun n d => n * 10 + d) 0 : Nat)
  match core with
  | '-' :: cs => (number cs).map (fun n => -n)
  | '+' :: cs => number cs
  | cs => number cs

namespace Machine

variable (m : Machine)

/-- An integer that a hook gave. -/
def hookInt (v : Value) : Prog Int :=
  match plainInt? v with
  | some n => return n
  | none => wrongType

/-- The integral part of a number. -/
def truncate (x : Binary64) : Prog Int :=
  if x.isNaN then plainFault .valueError
  else if x.isInfinite then plainFault .overflowError
  else return x.truncated

/-- The integer that a value converts to. -/
def toInt (v : Value) : Prog Int := do
  match v with
  | .text s =>
    match readInt? s with
    | some n => return n
    | none => plainFault .valueError
  | .float x _ => truncate x
  | _ =>
    match ← m.askHook? v "__int__" [] with
    | some r => hookInt r
    | none =>
      if (← hasHook v "__index__") || (plainInt? v).isSome then m.index v
      else
        match ← m.askHook? v "__trunc__" [] with
        | some r => m.index r
        | none => wrongType

/-- The number with a fraction that a value converts to. -/
def toFloat (v : Value) : Prog Binary64 := do
  match v with
  | .float x _ => return x
  | _ =>
    match ← m.askHook? v "__float__" [] with
    | some (.float x _) => return x
    | some _ => wrongType
    | none => toBinary64 (← m.index v)

end Machine

end ObjectModel.Script
