import ObjectModel.Number.Powers

/-!
# Digits

Decimal digits as they are read in texts of any script, integers in other bases, and digits in
groups.
-/

namespace ObjectModel.Text

/-- The first characters of the runs of ten decimal digits. -/
def digitZeros : List Nat :=
  [0x30, 0x660, 0x6F0, 0x7C0, 0x966, 0x9E6, 0xA66, 0xAE6, 0xB66, 0xBE6, 0xC66, 0xCE6, 0xD66,
   0xDE6, 0xE50, 0xED0, 0xF20, 0x1040, 0x1090, 0x17E0, 0x1810, 0x1946, 0x19D0, 0x1A80, 0x1A90,
   0x1B50, 0x1BB0, 0x1C40, 0x1C50, 0xA620, 0xA8D0, 0xA900, 0xA9D0, 0xA9F0, 0xAA50, 0xABF0,
   0xFF10, 0x104A0, 0x10D30, 0x11066, 0x110F0, 0x11136, 0x111D0, 0x112F0, 0x11450, 0x114D0,
   0x11650, 0x116C0, 0x11730, 0x118E0, 0x11950, 0x11C50, 0x11D50, 0x11DA0, 0x16A60,
   0x16AC0, 0x16B50, 0x1D7CE, 0x1D7D8, 0x1D7E2, 0x1D7EC, 0x1D7F6, 0x1E140, 0x1E2F0,
   0x1E950, 0x1FBF0]

/-- The value of a decimal digit of any script. -/
def decimalDigit? (c : Char) : Option Nat :=
  if c.toNat < 128 then (if c.isDigit then some (c.toNat - 48) else none)
  else (digitZeros.find? (fun z => z ≤ c.toNat && c.toNat ≤ z + 9)).map (c.toNat - ·)

/-- The characters that are blank at the ends of a written number. The four separators of records
are not among them. -/
def isBlank (c : Char) : Bool :=
  [0x9, 0xA, 0xB, 0xC, 0xD, 0x20, 0x85, 0xA0, 0x1680, 0x2000, 0x2001,
   0x2002, 0x2003, 0x2004, 0x2005, 0x2006, 0x2007, 0x2008, 0x2009, 0x200A, 0x2028, 0x2029, 0x202F,
   0x205F, 0x3000].contains c.toNat

/-- Numbers are not read from or written to texts with more decimal digits than this. -/
def maxDigits : Nat := 4300

/-- Whether the decimal text of a number would be too long. -/
def isTooLong (n : Int) : Bool :=
  n.natAbs.log2 ≥ 14280 && powerOfTen maxDigits ≤ n.natAbs

/-- For a text with more characters than this there is no memory. -/
def maxLength : Nat := powerOfTwo 30

/-- The digits of a number in a base of at most sixteen. -/
def inBase (base : Nat) (n : Nat) : List Char := Nat.toDigits base n

/-- Digits with a separator between groups of `size`, counted from the end, filled up with zeros
until they and the separators take up at least `width` characters. -/
def grouped (size : Nat) (separator : Char) : Nat → List Char → Int → List Char
  | 0, reversed, width => reversed ++ List.replicate (width - reversed.length).toNat '0'
  | steps + 1, reversed, width =>
    let part := reversed.take size
    let count := min size (max (max part.length width.toNat) 1)
    let part := part ++ List.replicate (count - part.length) '0'
    let rest := reversed.drop count
    let width := width - count
    if rest.isEmpty && width ≤ 0 then part
    else part ++ separator :: grouped size separator steps rest (width - 1)

/-- Digits filled up with zeros to at least `width` characters, in groups if a size is given. -/
def groupedDigits (group? : Option (Nat × Char)) (digits : List Char) (width : Int) : List Char :=
  match group? with
  | some (size, separator) =>
    (grouped size separator (digits.length + width.toNat) digits.reverse width).reverse
  | none => List.replicate (width - digits.length).toNat '0' ++ digits

end ObjectModel.Text
