import ObjectModel.Number.ComplexNumber
import ObjectModel.Number.Decimal

/-!
# Texts of numbers with a fraction

A number is written with a point, or with one digit in front of the point and a power of ten. The
style says how many digits there are and which of the two forms is taken.
-/

namespace ObjectModel.Text

inductive FloatStyle where
  /-- The fewest digits that name the number. -/
  | shortest
  /-- One digit, the point, `places` digits, and the power of ten. -/
  | scientific (places : Nat)
  | fixed (places : Nat)
  /-- At most `count` digits, in whichever form is more readable. -/
  | general (count : Nat)
  deriving DecidableEq

structure FloatLayout where
  style : FloatStyle
  /-- Keep the point, and in the general style the trailing zeros. -/
  alternate : Bool
  /-- Write at least one digit behind the point, unless there is a power of ten. -/
  pointZero : Bool
  uppercase : Bool

def FloatLayout.plain : FloatLayout := ⟨.shortest, false, true, false⟩

/-- A power of ten, with a sign and at least two digits. -/
def exponentText (e : Int) : String :=
  let digits := toString e.natAbs
  "e" ++ (if e < 0 then "-" else "+") ++ (if digits.length < 2 then "0" ++ digits else digits)

/-- No number has more digits than this, from the first one on or behind the point. All further
digits are zeros. -/
def exactDigits : Nat := 1100

/-- Digits of the number and the place of the point among them. -/
def placedDigits (style : FloatStyle) (x : Binary64) : List Char × Int :=
  let ofDecimal (d : Decimal) (zeros : Nat) : List Char × Int :=
    let cs := (toString d.digits).toList
    (cs ++ List.replicate zeros '0', cs.length + d.scale)
  if x.isZero then
    match style with
    | .scientific places => (List.replicate (places + 1) '0', 1)
    | .fixed places => (List.replicate (places + 1) '0', 1)
    | _ => (['0'], 1)
  else
    match style with
    | .shortest => ofDecimal x.shortest 0
    | .scientific places =>
      let count := min (places + 1) exactDigits
      ofDecimal (x.toDigits count) (places + 1 - count)
    | .general count =>
      let known := min count exactDigits
      ofDecimal (x.toDigits known) (count - known)
    | .fixed places =>
      let known := min places exactDigits
      let d := x.toPlaces known
      if d.digits = 0 then ([], -places) else ofDecimal d (places - known)

/-- The digits without the zeros at their end. -/
def trimmed (cs : List Char) : List Char := (cs.reverse.dropWhile (· == '0')).reverse

/-- `count` digits from place `i` on, counted from the first digit. They are zeros outside. -/
def digitsFrom (cs : List Char) (i : Int) (count : Nat) : List Char :=
  let before := min count (-i).toNat
  let known := (cs.drop i.toNat).take (count - before)
  List.replicate before '0' ++ known ++ List.replicate (count - before - known.length) '0'

/-- The text of the magnitude of a finite number. -/
def magnitudeText (layout : FloatLayout) (x : Binary64) : String :=
  let (cs, point) := placedDigits layout.style x
  let keeps := match layout.style with
    | .general _ => layout.alternate
    | .shortest => false
    | _ => true
  let digits := if keeps then cs else (match trimmed cs with | [] => ['0'] | ds => ds)
  let scientific := match layout.style with
    | .scientific _ => true
    | .fixed _ => false
    | .general count => point ≤ -4 ∨ (count : Int) - (if layout.pointZero then 1 else 0) < point
    | .shortest => point ≤ -4 ∨ 16 < point
  /- How many digits stand behind the point. -/
  let behind : Nat := match layout.style with
    | .scientific places => places
    | .fixed places => places
    | .general count =>
      let known := if layout.alternate then count else digits.length
      if scientific then known - 1 else ((known : Int) - point).toNat
    | .shortest => if scientific then digits.length - 1 else ((digits.length : Int) - point).toNat
  let front := if scientific then 1 else point
  let behind := if !scientific && layout.pointZero then max behind 1 else behind
  let whole := if front ≤ 0 then ['0'] else digitsFrom digits 0 front.toNat
  let rest := digitsFrom digits front behind
  let dot := if rest.isEmpty && !layout.alternate then [] else ['.']
  let power := if scientific then exponentText (if x.isZero then 0 else point - 1) else ""
  String.ofList (whole ++ dot ++ rest) ++ power

/-- The text of a number, with a sign if it is negative. -/
def floatText (layout : FloatLayout) (x : Binary64) : String :=
  let s := if x.isNaN then "nan"
    else (if x.isNegative then "-" else "") ++
      (if x.isInfinite then "inf" else magnitudeText layout x)
  if layout.uppercase then s.toUpper else s

/-- Whether the real part of a complex number is left out of its text. -/
def omitsReal (z : ComplexNumber) : Bool := z.re == .zero

/-- The text of a complex number, in parentheses unless it has an imaginary part alone. -/
def complexText (z : ComplexNumber) : String :=
  let layout := { FloatLayout.plain with pointZero := false }
  let im := floatText layout z.im ++ "j"
  if omitsReal z then im
  else "(" ++ floatText layout z.re ++ (if im.startsWith "-" then "" else "+") ++ im ++ ")"

end ObjectModel.Text
