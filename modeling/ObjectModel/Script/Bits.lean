import ObjectModel.Number.Powers

/-!
# Bitwise operations on integers

A negative integer is read as an endless row of ones to the left, so that each operation acts on
every bit by itself.
-/

namespace ObjectModel.Script.Bits

/-- The bits of `m` that `n` does not have. -/
def without (m n : Nat) : Nat := m ^^^ (m &&& n)

def and : Int → Int → Int
  | .ofNat m, .ofNat n => .ofNat (m &&& n)
  | .ofNat m, .negSucc n => .ofNat (without m n)
  | .negSucc m, .ofNat n => .ofNat (without n m)
  | .negSucc m, .negSucc n => .negSucc (m ||| n)

def or : Int → Int → Int
  | .ofNat m, .ofNat n => .ofNat (m ||| n)
  | .ofNat m, .negSucc n => .negSucc (without n m)
  | .negSucc m, .ofNat n => .negSucc (without m n)
  | .negSucc m, .negSucc n => .negSucc (m &&& n)

def xor : Int → Int → Int
  | .ofNat m, .ofNat n => .ofNat (m ^^^ n)
  | .ofNat m, .negSucc n => .negSucc (m ^^^ n)
  | .negSucc m, .ofNat n => .negSucc (m ^^^ n)
  | .negSucc m, .negSucc n => .ofNat (m ^^^ n)

/-- Shifting to the right drops bits and rounds down. -/
def shiftRight (a : Int) (n : Nat) : Int := Int.fdiv a (powerOfTwo n)

def shiftLeft (a : Int) (n : Nat) : Int := a * powerOfTwo n

end ObjectModel.Script.Bits
