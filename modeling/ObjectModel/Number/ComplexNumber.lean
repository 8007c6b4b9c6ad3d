import ObjectModel.ErrorKind
import ObjectModel.Number.Binary64

/-!
# Complex numbers

Negative numbers have powers that are not real. A complex number is a pair of numbers of 64 bits.
Products are taken part by part, quotients by the larger part of the divisor, whole powers by
repeated squaring, and all other powers by modulus and angle.
-/

namespace ObjectModel

/-- The integral part of a square root. -/
def rootFloor (n : Nat) : Nat :=
  if n = 0 then 0
  else
    let r := 2 * rootFloor (n / 4)
    if (r + 1) * (r + 1) ≤ n then r + 1 else r
termination_by n

namespace Binary64

/-- The mantissa of a finite number in units of two to the power `e`, which is not above its own. -/
def inUnits (x : Binary64) (e : Int) : Nat := x.mantissa * powerOfTwo (x.exponent - e).toNat

/-- The number nearest to the root of the sum of two squares, unless it is too large. The root is
taken with more digits than the result has, and one more that tells whether it is exact. -/
def hypotenuse? (x y : Binary64) : Option Binary64 :=
  let e := min x.exponent y.exponent
  let (a, b) := (x.inUnits e, y.inUnits e)
  let square := (a * a + b * b) * powerOfTwo 128
  let root := rootFloor square
  let n := if root * root = square then 2 * root else 2 * root + 1
  let e := e - 65
  ofQuotient? false (n * powerOfTwo e.toNat) (powerOfTwo (-e).toNat)

end Binary64

structure ComplexNumber where
  re : Binary64
  im : Binary64
  deriving DecidableEq, Inhabited

namespace ComplexNumber

def ofReal (x : Binary64) : ComplexNumber := ⟨x, .zero⟩

def ofFloats (x y : Float) : ComplexNumber := ⟨.ofFloat x, .ofFloat y⟩

def isZero (z : ComplexNumber) : Bool := z.re.isZero && z.im.isZero

def isNaN (z : ComplexNumber) : Bool := z.re.isNaN || z.im.isNaN

/-- The same number with a zero that has no sign for each part that is zero. -/
def withoutSignedZero (z : ComplexNumber) : ComplexNumber :=
  let plain (x : Binary64) : Binary64 := if x.isZero then .zero else x
  ⟨plain z.re, plain z.im⟩

def neg (z : ComplexNumber) : ComplexNumber := ofFloats (-z.re.toFloat) (-z.im.toFloat)

def add (z w : ComplexNumber) : ComplexNumber :=
  ofFloats (z.re.toFloat + w.re.toFloat) (z.im.toFloat + w.im.toFloat)

def sub (z w : ComplexNumber) : ComplexNumber :=
  ofFloats (z.re.toFloat - w.re.toFloat) (z.im.toFloat - w.im.toFloat)

def mul (z w : ComplexNumber) : ComplexNumber :=
  let (a, b, c, d) := (z.re.toFloat, z.im.toFloat, w.re.toFloat, w.im.toFloat)
  ofFloats (a * c - b * d) (a * d + b * c)

/-- A quotient, unless the divisor is zero. -/
def div? (z w : ComplexNumber) : Option ComplexNumber :=
  let (a, b, c, d) := (z.re.toFloat, z.im.toFloat, w.re.toFloat, w.im.toFloat)
  if w.isZero then none
  else if c.abs ≥ d.abs then
    let ratio := d / c
    let denominator := c + d * ratio
    some (ofFloats ((a + b * ratio) / denominator) ((b - a * ratio) / denominator))
  else if d.abs ≥ c.abs then
    let ratio := c / d
    let denominator := c * ratio + d
    some (ofFloats ((a * ratio + b) / denominator) ((b * ratio - a) / denominator))
  else some (ofFloats (0.0 / 0.0) (0.0 / 0.0))

/-- The modulus, unless it is too large. -/
def modulus? (z : ComplexNumber) : Option Binary64 :=
  if z.re.isInfinite then some (.ofFloat z.re.toFloat.abs)
  else if z.im.isInfinite then some (.ofFloat z.im.toFloat.abs)
  else if z.re.isNaN then some z.re
  else if z.im.isNaN then some z.im
  else z.re.hypotenuse? z.im

/-- `result` times the `n`-th power of `z`. -/
def timesPower (result z : ComplexNumber) (n : Nat) : ComplexNumber :=
  if n = 0 then result
  else timesPower (if n % 2 = 1 then result.mul z else result) (z.mul z) (n / 2)
termination_by n

def one : ComplexNumber := ofFloats 1.0 0.0

/-- A whole power, unless it is a quotient by zero. -/
def wholePower? (z : ComplexNumber) (n : Int) : Option ComplexNumber :=
  if 0 < n then some (one.timesPower z n.toNat) else one.div? (one.timesPower z n.natAbs)

/-- A power by modulus and angle, unless it is a quotient by zero or its angle is infinite. -/
def polarPower? (z w : ComplexNumber) : Option ComplexNumber :=
  let (c, d) := (w.re.toFloat, w.im.toFloat)
  if z.isZero then
    if d != 0.0 || c < 0.0 then none else some (ofFloats 0.0 0.0)
  else
    let modulus := (z.modulus?.map Binary64.toFloat).getD (1.0 / 0.0)
    let angle := Float.atan2 z.im.toFloat z.re.toFloat
    let length := modulus.pow c
    let (length, phase) :=
      if d != 0.0 then (length / (angle * d).exp, angle * c + d * modulus.log)
      else (length, angle * c)
    if phase.abs == 1.0 / 0.0 then none
    else some (ofFloats (length * phase.cos) (length * phase.sin))

/-- The exponents up to this one are taken by repeated squaring. -/
def maxWholePower : Nat := 100

/-- The small integer that an exponent is, if it is one. -/
def smallInteger? (w : ComplexNumber) : Option Int :=
  if w.im.isZero then w.re.integral?.filter (fun n => n.natAbs ≤ maxWholePower) else none

def power (z w : ComplexNumber) : Except ErrorKind ComplexNumber :=
  let result? := match w.smallInteger? with
    | some n => z.wholePower? n
    | none => z.polarPower? w
  match result? with
  | none => .error .zeroDivisionError
  | some r => if r.re.isInfinite || r.im.isInfinite then .error .overflowError else .ok r

end ComplexNumber

end ObjectModel
