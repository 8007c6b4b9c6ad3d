import ObjectModel.Layers

/-!
# Chains of parents

The chain of an object is the object, its parent, the parent of that, and so on up to a root. Where
parents are older than their children every object has exactly one chain, no object comes twice in
it, and the bounded climb finds all of it.
-/

namespace ObjectModel

variable {role : Role} {parent : Ref role → Option (Ref role)} {x y : Ref role}
  {xs ys : List (Ref role)}

/-- An object with all that the parent links lead to, up to a root. -/
inductive Chain (parent : Ref role → Option (Ref role)) : Ref role → List (Ref role) → Prop where
  | root {x : Ref role} (top : parent x = none) : Chain parent x [x]
  | layer {x y : Ref role} {ys : List (Ref role)} (link : parent x = some y)
      (above : Chain parent y ys) : Chain parent x (x :: ys)

/-- Parents were made before their children. -/
def Older (parent : Ref role → Option (Ref role)) : Prop :=
  ∀ x y, parent x = some y → y.index < x.index

theorem Chain.unique (h : Chain parent x xs) (h' : Chain parent x ys) : xs = ys := by
  induction h generalizing ys with
  | root top =>
    cases h' with
    | root top' => rfl
    | layer link above => simp [top] at link
  | layer link above ih =>
    cases h' with
    | root top => simp [top] at link
    | layer link' above' =>
      obtain rfl : _ = _ := Option.some.inj (link.symm.trans link')
      rw [ih above']

theorem Chain.index_le (older : Older parent) (h : Chain parent x xs) :
    ∀ y ∈ xs, y.index ≤ x.index := by
  induction h with
  | root top => simp
  | @layer x z zs link above ih =>
    intro y hy
    have hz := older x z link
    rcases List.mem_cons.mp hy with rfl | hy
    · exact Nat.le_refl _
    · have := ih y hy
      omega

theorem Chain.nodup (older : Older parent) (h : Chain parent x xs) : xs.Nodup := by
  induction h with
  | root top => simp
  | @layer x z zs link above ih =>
    refine List.nodup_cons.mpr ⟨fun hx => ?_, ih⟩
    have hle := above.index_le older x hx
    have hlt := older x z link
    omega

/-- A climb begins where it starts from. -/
theorem ascend_eq_cons (parent : Ref role → Option (Ref role)) (steps : Nat) (x : Ref role) :
    ∃ above, ascend parent steps x = x :: above := by
  cases steps <;> exact ⟨_, rfl⟩

/-- A climb with enough steps goes all the way up. -/
theorem chain_ascend (older : Older parent) (steps : Nat) (x : Ref role) (h : x.index ≤ steps) :
    Chain parent x (ascend parent steps x) := by
  induction steps generalizing x with
  | zero =>
    refine .root ?_
    cases hx : parent x with
    | none => rfl
    | some y =>
      have := older x y hx
      omega
  | succ n ih =>
    cases hx : parent x with
    | none => simpa [ascend, hx] using Chain.root hx
    | some y =>
      have := older x y hx
      simpa [ascend, hx] using Chain.layer hx (ih y (by omega))

theorem chain_ascend_index (older : Older parent) (x : Ref role) :
    Chain parent x (ascend parent x.index x) :=
  chain_ascend older x.index x (Nat.le_refl _)

/-- Chains only depend on the links of the objects in them. -/
theorem Chain.congr {parent' : Ref role → Option (Ref role)} (h : Chain parent x xs)
    (same : ∀ y ∈ xs, parent' y = parent y) : Chain parent' x xs := by
  induction h with
  | root top => exact .root ((same _ (by simp)).trans top)
  | layer link above ih =>
    exact .layer ((same _ (by simp)).trans link)
      (ih (fun y hy => same y (List.mem_cons_of_mem _ hy)))

/-- Two families of objects whose links run in parallel have parallel chains. -/
theorem Chain.map {role' : Role} {parent' : Ref role' → Option (Ref role')}
    (image : Ref role → Ref role') (h : Chain parent x xs)
    (parallel : ∀ y ∈ xs, (parent y).map image = parent' (image y)) :
    Chain parent' (image x) (xs.map image) := by
  induction h with
  | @root x top =>
    have hx := parallel x (by simp)
    exact .root (by rw [← hx, top]; rfl)
  | @layer x z zs link above ih =>
    have hx := parallel x (by simp)
    refine .layer (by rw [← hx, link]; rfl) (ih (fun y hy => ?_))
    exact parallel y (List.mem_cons_of_mem _ hy)

end ObjectModel
