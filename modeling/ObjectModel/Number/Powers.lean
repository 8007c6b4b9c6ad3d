/-!
# Powers of two and of ten

The bounds of machine numbers are powers of two, and decimal digits go by powers of ten.
-/

namespace ObjectModel

def powerOfTwo (n : Nat) : Nat := Nat.pow 2 n

def powerOfTen (n : Nat) : Nat := Nat.pow 10 n

end ObjectModel
