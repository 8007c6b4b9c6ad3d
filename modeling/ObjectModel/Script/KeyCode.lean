import ObjectModel.Value

/-!
# Codes of keys

Every value that can be a key has a code, an integer of at most 64 bits. Equal values have equal
codes: integers and numbers with a fraction by their remainder under one prime, sequences by
mixing the codes of their items, and things with an identity by what they are, which includes
undefined numbers. Texts and things have codes that no small integer has.
-/

namespace ObjectModel.Script.KeyCode

/-- Numbers are known by their remainder under this prime. -/
def modulus : Int := powerOfTwo 61 - 1

/-- Minus one is not a code. -/
def avoidMinusOne (n : Int) : Int := if n = -1 then -2 else n

def ofInt (n : Int) : Int := avoidMinusOne (Int.tmod n modulus)

/-- Whether a number fits into a word. -/
def isWord (n : Int) : Bool := -(powerOfTwo 63) ≤ n ∧ n < powerOfTwo 63

/-- The code that a hook gave. A number that fits into a word is taken as it is. -/
def ofHook (n : Int) : Int := if isWord n then avoidMinusOne n else ofInt n

/-- The code of a defined number. Half is `2 ^ 60` under the prime, so every finite number has a
remainder. -/
def ofBinary64 (x : Binary64) : Int :=
  if x.isInfinite then (if x.isNegative then -314159 else 314159)
  else
    let power := (x.exponent % 61).toNat
    ofInt (x.signed ((x.mantissa * powerOfTwo power) % (powerOfTwo 61 - 1)))

/-- The code of a complex number from the codes of its parts. -/
def ofParts (re im : Int) : Int := avoidMinusOne (Int.bmod (re + 1000003 * im) (powerOfTwo 64))

/-- A number made from the characters of a text. -/
def ofCharacters (s : String) : Nat :=
  s.toList.foldl (fun n c => (31 * n + c.toNat) % powerOfTwo 56) 1

def ofText (s : String) : Int := if s = "" then 0 else powerOfTwo 61 + (ofCharacters s : Nat)

/-- The code of a thing that is equal to nothing but itself. -/
def ofIdentity (v : Value) : Int :=
  let (kind, index) : Nat × Nat := match v with
    | .list r => (1, r.index)
    | .tuple r => (2, r.index)
    | .dict r => (3, r.index)
    | .function r => (4, r.index)
    | .method r => (5, r.index)
    | .iterator r => (6, r.index)
    | .exception r => (7, r.index)
    | .catalog r => (8, r.index)
    | .builder r => (9, r.index)
    | .definition r => (10, r.index)
    | .declaration r => (11, r.index)
    | .cls r => (12, r.index)
    | .state r => (13, r.index)
    | .facade r => (14, r.index)
    | .stateType r => (15, r.index)
    | .facadeType r => (16, r.index)
    | .entries r => (17, r.index)
    | .notImplemented => (18, 0)
    | .errorKind k => (19, k.name.length)
    | .float _ serial => (20, serial)
    | .complex _ serial => (21, serial)
    | _ => (22, 0)
  powerOfTwo 62 + (32 * index + kind : Nat)

def mixingStart : UInt64 := 2870177450012600261

/-- The code of a sequence from the codes of its items. -/
def ofCodes (codes : List Int) : Int :=
  let lane (acc : UInt64) (code : Int) : UInt64 :=
    let x := acc + UInt64.ofNat (code % powerOfTwo 64).toNat * 14029467366897019727
    ((x <<< 31) ||| (x >>> 33)) * 11400714785074694791
  let mixed := codes.foldl lane mixingStart
  let acc := mixed + (UInt64.ofNat codes.length ^^^ (mixingStart ^^^ 3527539))
  if acc.toNat = powerOfTwo 64 - 1 then 1546275796 else Int.bmod acc.toNat (powerOfTwo 64)

/-- The code of a function that is bound to a receiver. -/
def ofBound (receiver : Value) (function : Int) : Int :=
  Int.bmod (1000003 * ofIdentity receiver + function) (powerOfTwo 63)

end ObjectModel.Script.KeyCode
