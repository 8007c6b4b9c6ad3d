import ObjectModel.Store

/-!
# Laws of stores

What is read from a store after an object was added or changed, whichever reference is asked, and
how a store can grow. A store grows by keeping all of its objects, each of them up to a relation
that says what may change about it.
-/

namespace ObjectModel.Store

variable {role : Role} {α : Type}

theorem contains_push_iff (s : Store role α) (a : α) (x : Ref role) :
    (s.push a).contains x = true ↔ s.contains x = true ∨ x = s.next := by
  have hnext : x = s.next ↔ x.index = s.size := ⟨fun h => h ▸ rfl, Ref.ext⟩
  simp only [contains_iff, size_push, hnext]
  omega

theorem set_set (s : Store role α) (x : Ref role) (a a' : α) : (s.set x a).set x a' = s.set x a' := by
  simp [set]

section Reading

variable [Inhabited α]

theorem get_push (s : Store role α) (a : α) (x : Ref role) :
    (s.push a).get x = if x = s.next then a else s.get x := by
  by_cases hx : x = s.next
  · simp [hx]
  · cases h : s.contains x with
    | true => simp [hx, get_push_of_contains h]
    | false =>
      have h' : (s.push a).contains x = false := by
        have hne : x.index ≠ s.size := fun e => hx (Ref.ext e)
        simp only [contains, size_push, decide_eq_false_iff_not] at h ⊢
        omega
      simp [hx, get_of_not_contains h, get_of_not_contains h']

theorem get_modify (s : Store role α) (x y : Ref role) (f : α → α) :
    (s.modify x f).get y = if x = y ∧ s.contains y = true then f (s.get y) else s.get y := by
  by_cases hxy : x = y
  · subst hxy
    cases h : s.contains x with
    | true => simp [get_modify_self h]
    | false =>
      have h' : (s.modify x f).contains x = false := by simpa using h
      simp [get_of_not_contains h, get_of_not_contains h']
  · simp [hxy, get_modify_of_ne s hxy]

theorem get_set (s : Store role α) (x y : Ref role) (a : α) :
    (s.set x a).get y = if x = y ∧ s.contains y = true then a else s.get y := by
  by_cases hxy : x = y
  · subst hxy
    cases h : s.contains x with
    | true => simp [get_set_self h]
    | false =>
      have h' : (s.set x a).contains x = false := by simpa using h
      simp [get_of_not_contains h, get_of_not_contains h']
  · simp [hxy, get_set_of_ne s hxy]

/-- Two stores with the same objects at the same places are the same. -/
theorem ext_get {s s' : Store role α} (size : s'.size = s.size)
    (same : ∀ x, s.contains x = true → s'.get x = s.get x) : s' = s := by
  obtain ⟨cells⟩ := s
  obtain ⟨cells'⟩ := s'
  congr 1
  refine Array.ext size (fun i hi' hi => ?_)
  have hx := same ⟨i⟩ (contains_iff.mpr hi)
  simpa [get, Array.getD_eq_getD_getElem?, hi, hi'] using hx

theorem set_get (s : Store role α) (x : Ref role) : s.set x (s.get x) = s := by
  refine ext_get (size_set s x _) (fun y _ => ?_)
  rw [get_set]
  split
  · rename_i h
    rw [h.1]
  · rfl

end Reading

section Growth

variable [Inhabited α] {β : Type} {part : α → β}

/-- All objects of `s` are still there in `s'`, and each has kept a part of itself. -/
def Keeps (part : α → β) (s s' : Store role α) : Prop :=
  ∀ x, s.contains x = true → s'.contains x = true ∧ part (s'.get x) = part (s.get x)

theorem Keeps.refl (part : α → β) (s : Store role α) : Keeps part s s := fun _ hx => ⟨hx, rfl⟩

theorem Keeps.trans {s s' s'' : Store role α} (h : Keeps part s s') (h' : Keeps part s' s'') :
    Keeps part s s'' := by
  intro x hx
  obtain ⟨hx', hp⟩ := h x hx
  obtain ⟨hx'', hp'⟩ := h' x hx'
  exact ⟨hx'', hp'.trans hp⟩

theorem keeps_push (part : α → β) (s : Store role α) (a : α) : Keeps part s (s.push a) :=
  fun _ hx => ⟨contains_push a hx, by rw [get_push_of_contains hx]⟩

theorem keeps_modify {s : Store role α} {x : Ref role} {f : α → α}
    (hf : part (f (s.get x)) = part (s.get x)) : Keeps part s (s.modify x f) := by
  intro y hy
  refine ⟨by simpa using hy, ?_⟩
  rw [get_modify]
  split
  · rename_i h
    obtain ⟨rfl, -⟩ := h
    exact hf
  · rfl

theorem keeps_set {s : Store role α} {x : Ref role} {a : α} (ha : part a = part (s.get x)) :
    Keeps part s (s.set x a) := by
  intro y hy
  refine ⟨by simpa using hy, ?_⟩
  rw [get_set]
  split
  · rename_i h
    obtain ⟨rfl, -⟩ := h
    exact ha
  · rfl

end Growth

end ObjectModel.Store
