import ObjectModel.ErrorKind
import ObjectModel.Member
import ObjectModel.Number.ComplexNumber
import ObjectModel.Ref

/-!
# Values

The values that members hold and that programs pass around: plain data, references to the
objects of the model (catalogs, builders, definitions, declarations, classes, and the two views
of an instance), and references to what a client keeps on its own side (lists, functions, …).
-/

namespace ObjectModel

inductive Value where
  | null
  | notImplemented
  | bool (b : Bool)
  | int (n : Int)
  /-- A number with a fraction. Each one that is computed is a thing of its own. -/
  | float (x : Binary64) (serial : Nat)
  | complex (z : ComplexNumber) (serial : Nat)
  | text (s : String)
  | list (r : Ref .list)
  | tuple (r : Ref .tuple)
  | dict (r : Ref .dict)
  /-- A view of the table of a declaration. -/
  | entries (d : Ref .declaration)
  | function (r : Ref .function)
  | method (r : Ref .method)
  | iterator (r : Ref .iterator)
  | exception (r : Ref .exception)
  | catalog (r : Ref .catalog)
  | builder (r : Ref .builder)
  | definition (r : Ref .definition)
  | declaration (r : Ref .declaration)
  | cls (r : Ref .cls)
  | state (r : Ref .state)
  | facade (r : Ref .facade)
  | memberKind (k : MemberKind)
  | errorKind (k : ErrorKind)
  /-- The type of the private states of a class. -/
  | stateType (c : Ref .cls)
  /-- The type of the facades of a class. -/
  | facadeType (c : Ref .cls)
  /-- A value that is only ever passed on, known by the name of its type. -/
  | foreign (typeName : String)
  deriving DecidableEq

instance : Inhabited Value := ⟨.null⟩

namespace Value

/-- A number with a fraction as it is compared. Without a fraction it counts as an integer, and
only an undefined one remains a thing of its own. -/
def ofBinary64 (x : Binary64) (serial : Nat) : Value :=
  match x.integral? with
  | some n => .int n
  | none => .float x (if x.isNaN then serial else 0)

/-- A complex number as it is compared. Without an imaginary part it counts as a real one. -/
def ofComplex (z : ComplexNumber) (serial : Nat) : Value :=
  if z.im.isZero then ofBinary64 z.re serial
  else .complex z.withoutSignedZero (if z.isNaN then serial else 0)

/-- Truth values count as the integers zero and one, and numbers as the plainest ones that they are
equal to, wherever values are compared. -/
def canonical : Value → Value
  | .bool b => .int (if b then 1 else 0)
  | .float x serial => ofBinary64 x serial
  | .complex z serial => ofComplex z serial
  | v => v

def isText : Value → Bool
  | .text _ => true
  | _ => false

/-- The text that a value is, if it is one. -/
def plainText : Value → String
  | .text s => s
  | _ => ""

/-- Plain equality: the same object, or the same data. -/
def alike (v w : Value) : Bool := decide (v.canonical = w.canonical)

@[simp] theorem alike_refl (v : Value) : v.alike v = true := by simp [alike]

theorem alike_symm {v w : Value} (h : v.alike w = true) : w.alike v = true := by
  simp [alike] at *; exact h.symm

theorem alike_trans {u v w : Value} (h : u.alike v = true) (h' : v.alike w = true) :
    u.alike w = true := by
  simp [alike] at *; exact h.trans h'

theorem ofBinary64_ne_text (x : Binary64) (serial : Nat) (s : String) :
    ofBinary64 x serial ≠ .text s := by
  simp only [ofBinary64]
  split <;> simp

/-- A text is equal to nothing else. -/
theorem alike_text {v : Value} {s : String} : v.alike (.text s) = true ↔ v = .text s := by
  cases v with
  | float x serial => simp [alike, canonical, ofBinary64_ne_text]
  | complex z serial =>
    simp only [alike, canonical, ofComplex]
    split
    · simp [ofBinary64_ne_text]
    · simp
  | _ => simp [alike, canonical]

end Value

/-- How a value does as a key. -/
inductive KeyKind where
  /-- It is compared by what it is. -/
  | plain
  /-- It cannot be a key. -/
  | unhashable
  /-- It is made up of other values, or an instance that may have hooks of its own: these have to be
  asked what it is equal to. -/
  | asked
  deriving DecidableEq

def Value.keyKind : Value → KeyKind
  | .list _ | .dict _ | .entries _ | .definition _ => .unhashable
  | .tuple _ | .method _ | .declaration _ | .state _ | .facade _ => .asked
  | _ => .plain

theorem Value.keyKind_of_text {v : Value} {s : String} (text : v = .text s) : v.keyKind = .plain := by
  rw [text]
  rfl

/-- The keys of member tables. Member names are texts; a table may hold other keys, which no
member access ever finds. Such a key comes with the code by which its client looks it up. -/
inductive Key where
  | text (s : String)
  | value (v : Value) (code : Int)
  deriving DecidableEq

instance : Inhabited Key := ⟨.text ""⟩

namespace Key

def ofValue (v : Value) (code : Int) : Key :=
  match v with
  | .text s => .text s
  | v => .value v code

def toValue : Key → Value
  | .text s => .text s
  | .value v _ => v

instance : BEq Key := ⟨fun a b => a.toValue.alike b.toValue⟩

instance : EquivBEq Key where
  rfl {a} := Value.alike_refl a.toValue
  symm h := Value.alike_symm h
  trans h h' := Value.alike_trans h h'

@[simp] theorem toValue_ofValue (v : Value) (code : Int) : (ofValue v code).toValue = v := by
  cases v <;> rfl

@[simp] theorem text_beq_text (s t : String) : (Key.text s == Key.text t) = decide (s = t) := by
  simp [BEq.beq, toValue, Value.alike, Value.canonical]

end Key

end ObjectModel
