import ObjectModel.ErrorKind
import ObjectModel.Text.Digits
import ObjectModel.Text.FloatText

/-!
# Format specifications

A short text says how a value is to be written: what it is padded with and on which side, how its
sign is shown, how many characters it takes, and in which notation a number is written. Texts,
integers and numbers with a fraction each accept a part of it.
-/

namespace ObjectModel.Text

structure FormatSpec where
  fill : Char
  align : Char
  sign : Option Char
  /-- Show a negative zero as zero. -/
  noNegativeZero : Bool
  alternate : Bool
  width : Option Nat
  separator : Option Char
  precision : Option Nat
  type : Option Char

namespace FormatSpec

def isAlign (c : Char) : Bool := ['<', '>', '=', '^'].contains c

/-- Numbers in a specification are below this. -/
def maxNumber : Nat := powerOfTwo 63 - 1

def readDigits (n : Nat) : List Char → Nat × List Char
  | c :: cs =>
    match decimalDigit? c with
    | some d => readDigits (n * 10 + d) cs
    | none => (n, c :: cs)
  | [] => (n, [])

/-- A number at the start, if there is one. Numbers that are too large are faults. -/
def readNumber (cs : List Char) : Except ErrorKind (Option Nat × List Char) :=
  let (n, rest) := readDigits 0 cs
  if rest.length = cs.length then .ok (none, cs)
  else if maxNumber < n then .error .valueError
  else .ok (some n, rest)

/-- A character at the start, if it is one of those that can stand there. -/
def readFlag (accept : Char → Bool) : List Char → Option Char × List Char
  | c :: cs => if accept c then (some c, cs) else (none, c :: cs)
  | [] => (none, [])

def readAlign : List Char → Option Char × Option Char × List Char
  | f :: a :: cs =>
    if isAlign a then (some f, some a, cs)
    else if isAlign f then (none, some f, a :: cs)
    else (none, none, f :: a :: cs)
  | [a] => if isAlign a then (none, some a, []) else (none, none, [a])
  | [] => (none, none, [])

def readPrecision : List Char → Except ErrorKind (Option Nat × List Char)
  | '.' :: cs => do
    match ← readNumber cs with
    | (none, _) => .error .valueError
    | r => .ok r
  | cs => .ok (none, cs)

/-- Separators go with decimal notations, and the underscore with the others as well. -/
def acceptsSeparator (separator : Char) : Option Char → Bool
  | none => true
  | some t =>
    ['d', 'e', 'f', 'g', 'E', 'G', '%', 'F'].contains t
      || (separator == '_' && ['b', 'o', 'x', 'X'].contains t)

/-- Read a specification, given on which side values of the kind stand. -/
def read (defaultAlign : Char) (s : String) : Except ErrorKind FormatSpec := do
  let (fill?, align?, cs) := readAlign s.toList
  let (sign, cs) := readFlag (fun c => [' ', '+', '-'].contains c) cs
  let (z, cs) := readFlag (· == 'z') cs
  let (hash, cs) := readFlag (· == '#') cs
  let (zero, cs) := if fill?.isNone then readFlag (· == '0') cs else (none, cs)
  let (width, cs) ← readNumber cs
  let (comma, cs) := readFlag (· == ',') cs
  let (underscore, cs) := readFlag (· == '_') cs
  if comma.isSome && underscore.isSome then .error .valueError
  else if underscore.isSome && cs.head? == some ',' then .error .valueError
  else
    let (precision, cs) ← readPrecision cs
    let separator := comma <|> underscore
    let spec (type : Option Char) : FormatSpec :=
      { fill := fill?.getD (if zero.isSome then '0' else ' ')
        align := align?.getD (if zero.isSome && defaultAlign == '>' then '=' else defaultAlign)
        sign, noNegativeZero := z.isSome, alternate := hash.isSome
        width, separator, precision, type }
    match cs, separator with
    | [], _ => .ok (spec none)
    | [t], none => .ok (spec (some t))
    | [t], some c =>
      if acceptsSeparator c (some t) then .ok (spec (some t)) else .error .valueError
    | _, _ => .error .valueError

/-- A written value needs memory for as many characters as it takes. -/
def checkRoom (spec : FormatSpec) : Except ErrorKind Unit :=
  if maxLength < spec.width.getD 0 then .error .memoryError else .ok ()

/-- Pad on the side that the alignment leaves free. -/
def pad (spec : FormatSpec) (s : List Char) : List Char :=
  let missing := spec.width.getD 0 - s.length
  match spec.align with
  | '>' | '=' => List.replicate missing spec.fill ++ s
  | '^' =>
    List.replicate (missing / 2) spec.fill ++ s ++ List.replicate (missing - missing / 2) spec.fill
  | _ => s ++ List.replicate missing spec.fill

/-- The parts of a written number. -/
structure NumberParts where
  isNegative : Bool
  lead : List Char
  digits : List Char
  /-- What follows the digits, with the point. -/
  tail : List Char
  group : Nat

/-- Put the parts of a number together. Zeros behind the sign are part of the number and are
grouped with it. -/
def layOut (spec : FormatSpec) (p : NumberParts) : String :=
  let sign := match p.isNegative, spec.sign with
    | true, _ => ['-']
    | false, some '+' => ['+']
    | false, some ' ' => [' ']
    | false, _ => []
  let width : Int := spec.width.getD 0
  let others := sign.length + p.lead.length + p.tail.length
  let minimum : Int := if spec.fill = '0' ∧ spec.align = '=' then width - others else 0
  let digits := if p.digits.isEmpty then []
    else groupedDigits (spec.separator.map (fun c => (p.group, c))) p.digits minimum
  let body := digits ++ p.tail
  if spec.align = '=' then
    let missing := (width - (sign.length + p.lead.length + body.length)).toNat
    String.ofList (sign ++ p.lead ++ List.replicate missing spec.fill ++ body)
  else String.ofList (spec.pad (sign ++ p.lead ++ body))

def formatText (spec : FormatSpec) (s : String) : Except ErrorKind String :=
  let typeOk := match spec.type with
    | none | some 's' => true
    | _ => false
  if !typeOk || spec.sign.isSome || spec.noNegativeZero || spec.alternate || spec.align = '='
      || spec.separator.isSome then .error .valueError
  else do
    spec.checkRoom
    let cs := match spec.precision with
      | some n => s.toList.take n
      | none => s.toList
    return String.ofList (spec.pad cs)

/-- The base of a notation for integers, and what is written in front of it. -/
def baseOf : Char → Option (Nat × String)
  | 'b' => some (2, "0b")
  | 'o' => some (8, "0o")
  | 'x' => some (16, "0x")
  | 'X' => some (16, "0X")
  | 'd' | 'n' => some (10, "")
  | _ => none

def isFloatType (t : Char) : Bool := ['e', 'E', 'f', 'F', 'g', 'G', '%'].contains t

/-- An integer as the character with that number. -/
def formatCharacter (spec : FormatSpec) (n : Int) : Except ErrorKind String :=
  if spec.sign.isSome || spec.alternate then .error .valueError
  else if 0 ≤ n ∧ n < 0x110000 then do
    spec.checkRoom
    return spec.layOut ⟨false, [], [], [Char.ofNat n.toNat], 3⟩
  else .error .overflowError

/-- An integer in one of the notations of integers. -/
def formatInt (spec : FormatSpec) (n : Int) : Except ErrorKind String :=
  let t := spec.type.getD 'd'
  if spec.noNegativeZero || spec.precision.isSome then .error .valueError
  else if t = 'c' then spec.formatCharacter n
  else
    match baseOf t with
    | none => .error .valueError
    | some (base, lead) =>
      if base = 10 && isTooLong n then .error .valueError
      else do
        spec.checkRoom
        let digits := inBase base n.natAbs
        let digits := if t = 'X' then digits.map Char.toUpper else digits
        return spec.layOut
          { isNegative := n < 0
            lead := if spec.alternate then lead.toList else []
            digits, tail := []
            group := if base = 10 then 3 else 4 }

/-- The layout that a specification asks for. Without a type and a precision it is the shortest. -/
def floatLayout (spec : FormatSpec) : Option FloatLayout :=
  let places := spec.precision.getD 6
  match spec.type with
  | none =>
    match spec.precision with
    | none => some ⟨.shortest, spec.alternate, true, false⟩
    | some n => some ⟨.general (max n 1), spec.alternate, true, false⟩
  | some 'e' => some ⟨.scientific places, spec.alternate, false, false⟩
  | some 'E' => some ⟨.scientific places, spec.alternate, false, true⟩
  | some 'f' | some '%' => some ⟨.fixed places, spec.alternate, false, false⟩
  | some 'F' => some ⟨.fixed places, spec.alternate, false, true⟩
  | some 'g' | some 'n' => some ⟨.general (max places 1), spec.alternate, false, false⟩
  | some 'G' => some ⟨.general (max places 1), spec.alternate, false, true⟩
  | _ => none

/-- The layout that a specification asks for, if there is memory for it. -/
def checkedLayout (spec : FormatSpec) : Except ErrorKind FloatLayout :=
  match spec.floatLayout with
  | none => .error .valueError
  | some layout =>
    if (spec.precision.getD 0) ≥ powerOfTwo 31 then .error .valueError
    else if maxLength < spec.precision.getD 0 then .error .memoryError
    else do
      spec.checkRoom
      return layout

/-- The parts of the text of a number with a fraction. -/
def floatParts (spec : FormatSpec) (layout : FloatLayout) (x : Binary64) : NumberParts :=
  let cs := (floatText layout x).toList
  let (isNegative, cs) := match cs with
    | '-' :: rest => (true, rest)
    | _ => (false, cs)
  let digits := cs.takeWhile Char.isDigit
  let isZero := cs.all (fun c => c == '0' || !c.isDigit) && x.isFinite
  { isNegative := isNegative && !(spec.noNegativeZero && isZero)
    lead := [], digits, tail := cs.drop digits.length
    group := 3 }

def formatFloat (spec : FormatSpec) (x : Binary64) : Except ErrorKind String := do
  let layout ← spec.checkedLayout
  if spec.type = some '%' then
    let parts := spec.floatParts layout (.ofFloat (x.toFloat * 100))
    return spec.layOut { parts with tail := parts.tail ++ ['%'] }
  else return spec.layOut (spec.floatParts layout x)

/-- A complex number, part by part. Its imaginary part always shows its sign if it stands behind
another one, and the whole is put in parentheses if no notation is asked for. -/
def formatComplex (spec : FormatSpec) (z : ComplexNumber) : Except ErrorKind String := do
  if spec.type = some '%' then .error .valueError
  else
    let layout := { ← spec.checkedLayout with pointZero := false }
    if spec.fill = '0' || spec.align = '=' then .error .valueError
    else
      let bare := { spec with fill := ' ', align := '<', width := none }
      let part (sign : Option Char) (x : Binary64) : String :=
        { bare with sign }.layOut (spec.floatParts layout x)
      let shown :=
        if spec.type.isSome then part spec.sign z.re ++ part (some '+') z.im ++ "j"
        else if omitsReal z then part spec.sign z.im ++ "j"
        else "(" ++ part spec.sign z.re ++ part (some '+') z.im ++ "j)"
      return String.ofList (spec.pad shown.toList)

end FormatSpec

end ObjectModel.Text
