import ObjectModel.Ref

/-!
# Stores

A store holds the objects of one role in the order of their creation. Objects are never
removed, so a reference that was once valid stays valid and keeps naming the same object.
Reading a place that holds nothing gives the default object, and writing there does nothing.
-/

namespace ObjectModel

/-- The objects of one role, oldest first. -/
structure Store (role : Role) (α : Type) where
  cells : Array α

namespace Store

variable {role : Role} {α : Type}

def empty : Store role α := ⟨#[]⟩

instance : Inhabited (Store role α) := ⟨empty⟩

def size (s : Store role α) : Nat := s.cells.size

/-- Whether `x` names an object of the store. -/
def contains (s : Store role α) (x : Ref role) : Bool := decide (x.index < s.size)

def get [Inhabited α] (s : Store role α) (x : Ref role) : α := s.cells.getD x.index default

def set (s : Store role α) (x : Ref role) (a : α) : Store role α :=
  ⟨s.cells.setIfInBounds x.index a⟩

def modify (s : Store role α) (x : Ref role) (f : α → α) : Store role α :=
  ⟨s.cells.modify x.index f⟩

/-- The reference that the next object will have. -/
def next (s : Store role α) : Ref role := ⟨s.size⟩

def push (s : Store role α) (a : α) : Store role α := ⟨s.cells.push a⟩

theorem contains_iff {s : Store role α} {x : Ref role} :
    s.contains x = true ↔ x.index < s.size := by
  simp [contains]

@[simp] theorem size_empty : (empty : Store role α).size = 0 := rfl

@[simp] theorem size_set (s : Store role α) (x : Ref role) (a : α) : (s.set x a).size = s.size := by
  simp [size, set]

@[simp] theorem size_modify (s : Store role α) (x : Ref role) (f : α → α) :
    (s.modify x f).size = s.size := by
  simp [size, modify]

@[simp] theorem size_push (s : Store role α) (a : α) : (s.push a).size = s.size + 1 := by
  simp [size, push]

@[simp] theorem contains_set (s : Store role α) (x y : Ref role) (a : α) :
    (s.set x a).contains y = s.contains y := by simp [contains]

@[simp] theorem contains_modify (s : Store role α) (x y : Ref role) (f : α → α) :
    (s.modify x f).contains y = s.contains y := by simp [contains]

@[simp] theorem contains_next (s : Store role α) : s.contains s.next = false := by
  simp [contains, next]

theorem contains_push {s : Store role α} {x : Ref role} (a : α) (h : s.contains x = true) :
    (s.push a).contains x = true := by
  simp only [contains_iff, size_push] at *; omega

@[simp] theorem contains_push_next (s : Store role α) (a : α) :
    (s.push a).contains s.next = true := by
  simp [contains, next]

theorem get_set_self [Inhabited α] {s : Store role α} {x : Ref role} (h : s.contains x = true)
    (a : α) :
    (s.set x a).get x = a := by
  rw [contains_iff] at h
  simp [get, set, Array.getD_eq_getD_getElem?, show x.index < s.cells.size from h]

theorem get_set_of_ne [Inhabited α] (s : Store role α) {x y : Ref role} (h : x ≠ y) (a : α) :
    (s.set x a).get y = s.get y := by
  have hne : x.index ≠ y.index := fun e => h (Ref.ext e)
  simp [get, set, Array.getD_eq_getD_getElem?, Array.getElem?_setIfInBounds_ne hne]

theorem get_modify_self [Inhabited α] {s : Store role α} {x : Ref role} (h : s.contains x = true)
    (f : α → α) : (s.modify x f).get x = f (s.get x) := by
  rw [contains_iff] at h
  have h' : x.index < s.cells.size := h
  simp [get, modify, Array.getD_eq_getD_getElem?, h', Array.getElem_modify]

theorem get_modify_of_ne [Inhabited α] (s : Store role α) {x y : Ref role} (h : x ≠ y) (f : α → α) :
    (s.modify x f).get y = s.get y := by
  have hne : x.index ≠ y.index := fun e => h (Ref.ext e)
  simp [get, modify, Array.getD_eq_getD_getElem?, Array.getElem?_modify, hne]

theorem get_of_not_contains [Inhabited α] {s : Store role α} {x : Ref role}
    (h : s.contains x = false) : s.get x = default := by
  have : ¬ x.index < s.size := by simpa [contains] using h
  simp only [size] at this
  simp [get, Array.getD, this]

theorem get_push_of_contains [Inhabited α] {s : Store role α} {x : Ref role}
    (h : s.contains x = true)
    (a : α) : (s.push a).get x = s.get x := by
  rw [contains_iff] at h
  have h' : x.index < s.cells.size := h
  simp [get, push, Array.getD_eq_getD_getElem?, Array.getElem?_push, Nat.ne_of_lt h']

@[simp] theorem get_push_next [Inhabited α] (s : Store role α) (a : α) :
    (s.push a).get s.next = a := by
  simp [get, push, next, size, Array.getD_eq_getD_getElem?]

theorem ne_next {s : Store role α} {x : Ref role} (h : s.contains x = true) : x ≠ s.next := by
  rintro rfl; simp at h

end Store

end ObjectModel
