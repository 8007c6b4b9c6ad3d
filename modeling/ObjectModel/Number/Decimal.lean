import ObjectModel.Number.Binary64

/-!
# Decimal digits

The digits of numbers in base ten: the fewest digits that still name a binary number, and a
number of digits or places that is asked for. Halves go to the even digit. All of it is done with
integers.
-/

namespace ObjectModel

/-- A positive number as its decimal digits: `digits` times ten to the power `scale`. -/
structure Decimal where
  digits : Nat
  scale : Int
  deriving DecidableEq

namespace Decimal

/-- The number of decimal digits of `n`, at least one. -/
def width (n : Nat) : Nat := (toString n).length

/-- The power of ten of the first digit. -/
def magnitude (x : Decimal) : Int := x.scale + width x.digits - 1

end Decimal

namespace Binary64

/-- `n / d` times ten to the power `k`, as a quotient. -/
def scaled (n d : Nat) (k : Int) : Nat × Nat :=
  if 0 ≤ k then (n * powerOfTen k.toNat, d) else (n, d * powerOfTen (-k).toNat)

/-- Find the power of ten of a quotient below one, from `k` on. -/
def leadingBelow (n d : Nat) : Nat → Nat → Int
  | 0, k => -(k : Int)
  | steps + 1, k => if d ≤ n * powerOfTen k then -(k : Int) else leadingBelow n d steps (k + 1)

/-- The power of ten of the first digit of a positive quotient. -/
def leadingPower (n d : Nat) : Int :=
  if d ≤ n then (Decimal.width (n / d) : Int) - 1
  else
    let guess := ((d.log2 - n.log2) * 30103 / 100000) - 1
    leadingBelow n d 400 guess

/-- Whether `c` times ten to the power `k` is between two numbers of quarter units. -/
def isBetween (unit : Int) (low high : Nat) (closed : Bool) (c : Nat) (k : Int) : Bool :=
  let (a, b) := (powerOfTwo unit.toNat, powerOfTwo (-unit).toNat)
  let (p, q) := (powerOfTen k.toNat, powerOfTen (-k).toNat)
  let x := c * p * b
  if closed then low * a * q ≤ x && x ≤ high * a * q
  else low * a * q < x && x < high * a * q

/-- The nearest of the neighbours on the grid of ten to the power `k` that still name the number. -/
def onGrid? (x : Binary64) (k : Int) : Option Nat :=
  let m := x.mantissa
  let unit := x.exponent - 2
  let low := if x.fraction = 0 ∧ 1 < x.exponentField then 4 * m - 1 else 4 * m - 2
  let closed := m % 2 = 0
  let (n, d) := x.magnitude
  let (n, d) := scaled n d (-k)
  let c := n / d
  let within := fun c => isBetween unit low (4 * m + 2) closed c k
  match within c, within (c + 1) with
  | true, true =>
    let r := n % d
    if 2 * r < d ∨ (2 * r = d ∧ c % 2 = 0) then some c else some (c + 1)
  | true, false => some c
  | false, true => some (c + 1)
  | false, false => none

/-- Try one digit more each time. -/
def shortestFrom (x : Binary64) (first : Int) : Nat → Nat → Decimal
  | 0, count =>
    let k := first + 1 - count
    let (n, d) := x.magnitude
    let (n, d) := scaled n d (-k)
    ⟨roundedQuotient n d, k⟩
  | steps + 1, count =>
    let k := first + 1 - count
    match onGrid? x k with
    | some c => if c = 0 then shortestFrom x first steps (count + 1) else ⟨c, k⟩
    | none => shortestFrom x first steps (count + 1)

/-- The fewest digits that name a positive finite number, and of those the nearest. -/
def shortest (x : Binary64) : Decimal :=
  let (n, d) := x.magnitude
  shortestFrom x (leadingPower n d) 17 1

/-- A positive finite number rounded to `places` digits behind the point. -/
def toPlaces (x : Binary64) (places : Nat) : Decimal :=
  let (n, d) := x.magnitude
  let (n, d) := scaled n d places
  ⟨roundedQuotient n d, -places⟩

/-- A positive finite number rounded to `count` digits. -/
def toDigits (x : Binary64) (count : Nat) : Decimal :=
  let (n, d) := x.magnitude
  let k := leadingPower n d + 1 - count
  let (n', d') := scaled n d (-k)
  let c := roundedQuotient n' d'
  if c = powerOfTen count then ⟨powerOfTen (count - 1), k + 1⟩ else ⟨c, k⟩

end Binary64

end ObjectModel
