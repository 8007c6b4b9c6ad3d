import ObjectModel.Number.Powers

/-!
# Binary numbers of 64 bits

A number is a sign, a mantissa and a power of two, packed into 64 bits. What is asked of numbers
exactly (their integral part, the nearest number to a quotient, their code as a key) is answered
with integers.
-/

namespace ObjectModel

structure Binary64 where
  bits : UInt64
  deriving DecidableEq, Inhabited

namespace Binary64

def ofFloat (x : Float) : Binary64 := ⟨x.toBits⟩

def toFloat (x : Binary64) : Float := Float.ofBits x.bits

def isNegative (x : Binary64) : Bool := x.bits.toNat ≥ powerOfTwo 63

def exponentField (x : Binary64) : Nat := x.bits.toNat / powerOfTwo 52 % powerOfTwo 11

def fraction (x : Binary64) : Nat := x.bits.toNat % powerOfTwo 52

/-- Neither infinite nor undefined. -/
def isFinite (x : Binary64) : Bool := x.exponentField < 2047

def isNaN (x : Binary64) : Bool := !x.isFinite && x.fraction != 0

def isInfinite (x : Binary64) : Bool := !x.isFinite && x.fraction == 0

def isZero (x : Binary64) : Bool := x.bits.toNat % powerOfTwo 63 == 0

/-- The mantissa of a finite number. -/
def mantissa (x : Binary64) : Nat :=
  if x.exponentField = 0 then x.fraction else x.fraction + powerOfTwo 52

/-- A finite number is its mantissa times two to this power. -/
def exponent (x : Binary64) : Int :=
  if x.exponentField = 0 then -1074 else (x.exponentField : Int) - 1075

def withSign (negative : Bool) (bits : Nat) : Binary64 :=
  ⟨UInt64.ofNat (if negative then bits + powerOfTwo 63 else bits)⟩

def zero : Binary64 := ⟨0⟩

/-- The quotient of two numbers, rounded to the nearest integer, a half to the even one. -/
def roundedQuotient (n d : Nat) : Nat :=
  let q := n / d
  let r := n % d
  if 2 * r < d then q
  else if d < 2 * r then q + 1
  else if q % 2 = 0 then q else q + 1

/-- The floor of the binary logarithm of a positive quotient. -/
def logQuotient (n d : Nat) : Int :=
  let k : Int := (n.log2 : Int) - d.log2
  let below := if 0 ≤ k then n < d * powerOfTwo k.toNat else n * powerOfTwo (-k).toNat < d
  if below then k - 1 else k

/-- The number nearest to a quotient, unless it is too large. -/
def ofQuotient? (negative : Bool) (n d : Nat) : Option Binary64 :=
  if n = 0 then some (withSign negative 0)
  else
    let e := max (-1074) (logQuotient n d - 52)
    let q := if 0 ≤ e then roundedQuotient n (d * powerOfTwo e.toNat)
      else roundedQuotient (n * powerOfTwo (-e).toNat) d
    let bits := (e + 1074).toNat * powerOfTwo 52 + q
    if bits < 2047 * powerOfTwo 52 then some (withSign negative bits) else none

/-- The number nearest to an integer, unless it is too large. -/
def ofInt? (n : Int) : Option Binary64 := ofQuotient? (n < 0) n.natAbs 1

/-- The nearest number to the quotient of two integers, unless it is too large. -/
def ofRatio? (n d : Int) : Option Binary64 :=
  ofQuotient? ((n < 0) != (d < 0)) n.natAbs d.natAbs

/-- The magnitude of a finite number as a quotient. -/
def magnitude (x : Binary64) : Nat × Nat :=
  if 0 ≤ x.exponent then (x.mantissa * powerOfTwo x.exponent.toNat, 1)
  else (x.mantissa, powerOfTwo (-x.exponent).toNat)

def signed (x : Binary64) (n : Nat) : Int := if x.isNegative then -(n : Int) else n

/-- The integral part of a finite number. -/
def truncated (x : Binary64) : Int :=
  let (n, d) := x.magnitude
  x.signed (n / d)

/-- The integer that a number is, if it is one. -/
def integral? (x : Binary64) : Option Int :=
  if x.isFinite then
    let (n, d) := x.magnitude
    if n % d = 0 then some (x.signed (n / d)) else none
  else none

/-- How a finite number compares with an integer. -/
def compareInt (x : Binary64) (n : Int) : Ordering :=
  let (p, q) := x.magnitude
  compare (x.signed p) (n * q)

/-- The remainder of a division of finite numbers, with the sign of the dividend. It is exact. -/
def remainder (x y : Binary64) : Binary64 :=
  let (a, b) := x.magnitude
  let (c, d) := y.magnitude
  (ofQuotient? x.isNegative ((a * d) % (c * b)) (b * d)).getD zero

end Binary64

end ObjectModel
