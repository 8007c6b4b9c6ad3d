/-!
# References

Objects with identity are held in stores and named by references. A reference carries the
role of what it names, so that references of two roles cannot be confused.
-/

namespace ObjectModel

/-- The kinds of objects that have an identity. -/
inductive Role where
  | catalog | builder | definition | declaration | cls | state | facade
  | list | tuple | dict | function | method | iterator | exception | frame
  deriving DecidableEq

/-- The place of an object among the objects of its role, counted from the oldest. -/
structure Ref (role : Role) where
  index : Nat
  deriving DecidableEq

instance {role : Role} : Inhabited (Ref role) := ⟨⟨0⟩⟩

@[ext] theorem Ref.ext {role : Role} {x y : Ref role} (h : x.index = y.index) : x = y := by
  cases x; cases y; cases h; rfl

end ObjectModel
