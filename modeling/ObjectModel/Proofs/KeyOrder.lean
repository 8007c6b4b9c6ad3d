import ObjectModel.Proofs.PlainTexts

/-!
# Putting plain data in order

Texts can be put in order, and so can numbers and truth values. Any other plain data of two values
or more has no order: sooner or later two values are compared that have none, whichever values the
sorting looks at first.
-/

namespace ObjectModel

section Sorting

variable {α : Type} {le : α → α → Bool} {a b : α} {l : List α}

theorem mem_insertOrdered : b ∈ insertOrdered le a l ↔ b = a ∨ b ∈ l := by
  induction l with
  | nil => simp [insertOrdered]
  | cons c l ih =>
    rw [insertOrdered]
    split
    · exact List.mem_cons
    · rw [List.mem_cons, ih, List.mem_cons]
      exact or_left_comm

theorem mem_inOrder : b ∈ inOrder le l ↔ b ∈ l := by
  induction l with
  | nil => rfl
  | cons a l ih =>
    rw [List.mem_cons, ← ih]
    exact mem_insertOrdered

theorem mem_of_sortKeys? {ks ks' : List Key} (sorts : sortKeys? ks = some ks') {k : Key} :
    k ∈ ks' ↔ k ∈ ks := by
  rw [sortKeys?] at sorts
  split at sorts
  · cases sorts
    rfl
  · split at sorts
    · cases sorts
      exact mem_inOrder
    · split at sorts
      · cases sorts
        exact mem_inOrder
      · cases sorts

end Sorting

namespace Script

/-- An integer or a truth value. -/
def isNumber : Value → Bool
  | .int _ | .bool _ => true
  | _ => false

/-- The sorts of plain data that have an order. -/
inductive OrderedSort where
  | texts | numbers

/-- Whether a value is of a sort. -/
def OrderedSort.has : OrderedSort → Value → Bool
  | .texts, v => v.isText
  | .numbers, v => isNumber v

theorem OrderedSort.unique {s t : OrderedSort} {v : Value} (hs : s.has v = true)
    (ht : t.has v = true) : s = t := by
  cases s <;> cases t <;> cases v <;> simp_all [has, Value.isText, isNumber]

/-- Two values or more that are not all of one sort. -/
def Unordered (vs : List Value) : Prop :=
  2 ≤ vs.length ∧ ∀ s : OrderedSort, ∃ v ∈ vs, s.has v = false

theorem unordered_iff {vs : List Value} :
    Unordered vs ↔ 2 ≤ vs.length ∧ vs.all Value.isText = false ∧ vs.all isNumber = false := by
  have mixed (s : OrderedSort) : (∃ v ∈ vs, s.has v = false) ↔ vs.all s.has = false := by
    simp only [List.all_eq_false, Bool.not_eq_true]
  simp only [Unordered, mixed]
  exact and_congr_right fun _ => ⟨fun none => ⟨none .texts, none .numbers⟩,
    fun | ⟨texts, _⟩, .texts => texts | ⟨_, numbers⟩, .numbers => numbers⟩

instance (vs : List Value) : Decidable (Unordered vs) := decidable_of_iff _ unordered_iff.symm

/-- Plain data has no order if it is not all of one sort. -/
theorem sortKeys?_eq_none_iff {vs : List Value} (plain : ∀ x ∈ vs, IsPlain x) :
    sortKeys? (vs.map (fun v => Key.ofValue v 0)) = none ↔ Unordered vs := by
  have all (f : Key → Bool) (g : Value → Bool)
      (same : ∀ v, IsPlain v → f (Key.ofValue v 0) = g v) :
      (vs.map (fun v => Key.ofValue v 0)).all f = vs.all g := by
    rw [Bool.eq_iff_iff, List.all_eq_true, List.all_eq_true, List.forall_mem_map]
    exact forall₂_congr (fun v there => by rw [same v (plain v there)])
  rw [unordered_iff, sortKeys?, all _ Value.isText (fun v plain => by cases plain <;> rfl),
    all _ isNumber (fun v plain => by cases plain <;> rfl), List.length_map]
  by_cases few : vs.length < 2
  · rw [if_pos few]
    exact iff_of_false (Option.some_ne_none _) (fun ⟨two, _⟩ => absurd two (Nat.not_le.mpr few))
  · have two : 2 ≤ vs.length := Nat.le_of_not_lt few
    rw [if_neg few]
    cases vs.all Value.isText <;> cases vs.all isNumber <;> simp [two]

/-- Plain data in order. It is a fault if it has none. -/
def plainSorted (vs : List Value) : Except Fault (List Value) :=
  match sortKeys? (vs.map (fun v => Key.ofValue v 0)) with
  | some ks => .ok (ks.map Key.toValue)
  | none => .error .wrongType

section Sorted

variable {vs : List Value} (plain : ∀ x ∈ vs, IsPlain x)

include plain

theorem plainSorted_of_unordered (unordered : Unordered vs) :
    plainSorted vs = .error .wrongType := by
  rw [plainSorted, (sortKeys?_eq_none_iff plain).mpr unordered]

/-- What has an order keeps its members when it is put in order. -/
theorem exists_plainSorted (ordered : ¬ Unordered vs) :
    ∃ us, plainSorted vs = .ok us ∧ ∀ v, v ∈ us ↔ v ∈ vs := by
  cases sorts : sortKeys? (vs.map (fun v => Key.ofValue v 0)) with
  | none => exact absurd ((sortKeys?_eq_none_iff plain).mp sorts) ordered
  | some ks =>
    refine ⟨ks.map Key.toValue, by rw [plainSorted, sorts], fun v => ?_⟩
    simp only [List.mem_map, mem_of_sortKeys? sorts]
    constructor
    · rintro ⟨_, ⟨v, there, rfl⟩, rfl⟩
      rwa [Key.toValue_ofValue]
    · exact fun there => ⟨_, ⟨v, there, rfl⟩, Key.toValue_ofValue v 0⟩

end Sorted

namespace Machine

variable {m : Machine} {u : World Workspace} {v w : Value} {op : CompareOp} {n : Nat}
  {s : OrderedSort}

theorem run_compareStep_of_bool {b : Bool}
    (answers : (m.answer op v w).run u = (.ok (.bool b), u)) :
    (m.compareStep op v w).run u = (.ok (.bool b), u) := by
  unfold compareStep
  refine (Session.run_bind_of_ok answers).trans ?_
  exact Session.run_pure _ _

theorem run_compareStep_of_undecided (left : (m.answer .lt v w).run u = (.ok .notImplemented, u))
    (right : (m.answer .gt w v).run u = (.ok .notImplemented, u)) :
    (m.compareStep .lt v w).run u = (.error .wrongType, u) := by
  unfold compareStep
  refine (Session.run_bind_of_ok left).trans ?_
  refine (Session.run_bind_of_ok right).trans ?_
  exact Session.run_throw _ _

/-- Plain data of one sort is compared by itself. -/
theorem exists_run_answer (hv : IsPlain v) (hw : IsPlain w) (both : s.has v = true ∧ s.has w = true)
    (m : Machine) (u : World Workspace) :
    ∃ b, (m.answer .lt v w).run u = (.ok (.bool b), u) := by
  cases s with
  | texts =>
    cases hv with
    | text a =>
      cases hw with
      | text b => exact ⟨_, Session.run_pure _ u⟩
      | _ => exact absurd both.2 Bool.false_ne_true
    | _ => exact absurd both.1 Bool.false_ne_true
  | numbers =>
    cases hv with
    | int a | bool a =>
      cases hw with
      | int b | bool b => exact ⟨_, Session.run_pure _ u⟩
      | _ => exact absurd both.2 Bool.false_ne_true
    | _ => exact absurd both.1 Bool.false_ne_true

/-- Plain data that is not of one sort does not know of each other. -/
theorem run_answer_of_not_has (hv : IsPlain v) (hw : IsPlain w)
    (none : ∀ s : OrderedSort, ¬ (s.has v = true ∧ s.has w = true)) (m : Machine)
    (u : World Workspace) :
    (m.answer .lt v w).run u = (.ok .notImplemented, u) ∧
      (m.answer .gt w v).run u = (.ok .notImplemented, u) := by
  have texts := none .texts
  have numbers := none .numbers
  cases hv with
  | null => cases hw <;> exact ⟨Session.run_pure _ u, Session.run_pure _ u⟩
  | text a =>
    cases hw with
    | text b => exact absurd ⟨rfl, rfl⟩ texts
    | _ => exact ⟨Session.run_pure _ u, Session.run_pure _ u⟩
  | int a | bool a =>
    cases hw with
    | int b | bool b => exact absurd ⟨rfl, rfl⟩ numbers
    | _ => exact ⟨Session.run_pure _ u, Session.run_pure _ u⟩

/-- Values of one sort can be compared. -/
theorem run_isBefore_of_has (hv : IsPlain v) (hw : IsPlain w)
    (both : s.has v = true ∧ s.has w = true) (n : Nat) (u : World Workspace) :
    ∃ b, ((ofDepth (n + 1)).isBefore .compare v w).run u = (.ok b, u) := by
  obtain ⟨b, answers⟩ := exists_run_answer hv hw both (ofDepth n) u
  exact ⟨b, (Session.run_bind_of_ok (run_compareStep_of_bool answers)).trans (Session.run_pure _ _)⟩

/-- Plain data that is not of one sort cannot be compared. -/
theorem run_isBefore_of_not_has (hv : IsPlain v) (hw : IsPlain w)
    (none : ∀ s : OrderedSort, ¬ (s.has v = true ∧ s.has w = true)) (n : Nat)
    (u : World Workspace) :
    ((ofDepth (n + 1)).isBefore .compare v w).run u = (.error .wrongType, u) := by
  obtain ⟨left, right⟩ := run_answer_of_not_has hv hw none (ofDepth n) u
  exact Session.run_bind_of_error (run_compareStep_of_undecided left right)

theorem run_isBefore_of_other (hv : IsPlain v) (hw : IsPlain w) (one : s.has v = true)
    (other : s.has w = false) (n : Nat) (u : World Workspace) :
    ((ofDepth (n + 1)).isBefore .compare v w).run u = (.error .wrongType, u) ∧
      ((ofDepth (n + 1)).isBefore .compare w v).run u = (.error .wrongType, u) := by
  have apart (t : OrderedSort) : ¬ (t.has v = true ∧ t.has w = true) := by
    rintro ⟨tv, tw⟩
    obtain rfl := OrderedSort.unique tv one
    rw [tw] at other
    cases other
  exact ⟨run_isBefore_of_not_has hv hw apart n u,
    run_isBefore_of_not_has hw hv (fun t both => apart t both.symm) n u⟩

/-- The values that go on in order are of the sort of the first one. -/
theorem run_runFrom (plain : IsPlain v) (one : s.has v = true) (falling : Bool) {rest : List Value}
    (plainRest : ∀ x ∈ rest, IsPlain x) (n : Nat) (u : World Workspace) :
    ((ofDepth (n + 1)).runFrom .compare falling v rest).run u = (.error .wrongType, u) ∨
    ∃ run left, ((ofDepth (n + 1)).runFrom .compare falling v rest).run u = (.ok (run, left), u) ∧
      rest = run ++ left ∧ ∀ x ∈ run, s.has x = true := by
  induction rest generalizing v with
  | nil => exact .inr ⟨[], [], Session.run_pure _ u, rfl, by simp⟩
  | cons x rest ih =>
    obtain ⟨plainX, plainRest⟩ := List.forall_mem_cons.mp plainRest
    cases sort : s.has x with
    | false =>
      refine .inl ?_
      unfold runFrom
      exact Session.run_bind_of_error (run_isBefore_of_other plain plainX one sort n u).2
    | true =>
      obtain ⟨before, compared⟩ := run_isBefore_of_has plainX plain ⟨sort, one⟩ n u
      unfold runFrom
      rw [Session.run_bind_of_ok compared]
      by_cases goes : before = falling
      · rw [if_pos goes]
        rcases ih plainX sort plainRest with fails | ⟨run, left, goesOn, rfl, all⟩
        · exact .inl (Session.run_bind_of_error fails)
        · refine .inr ⟨x :: run, left, ?_, rfl, List.forall_mem_cons.mpr ⟨sort, all⟩⟩
          exact (Session.run_bind_of_ok goesOn).trans (Session.run_pure _ u)
      · rw [if_neg goes]
        exact .inr ⟨[], x :: rest, Session.run_pure _ u, rfl, by simp⟩

section Places

variable {sorted : Array Value} {low high : Nat}

theorem getD_mem {i : Nat} (there : i < sorted.size) : sorted.getD i default ∈ sorted := by
  rw [Array.getD_eq_getD_getElem?, Array.getElem?_eq_getElem there]
  exact Array.getElem_mem there

/-- A value of the sort of those in order has a place among them. -/
theorem run_placeBetween (plain : IsPlain v) (one : s.has v = true)
    (all : ∀ x ∈ sorted, IsPlain x ∧ s.has x = true) (steps : Nat) (within : high ≤ sorted.size)
    (n : Nat) (u : World Workspace) :
    ∃ i, ((ofDepth (n + 1)).placeBetween .compare v sorted steps low high).run u = (.ok i, u) := by
  induction steps generalizing low high with
  | zero => exact ⟨low, Session.run_pure _ u⟩
  | succ steps ih =>
    unfold placeBetween
    by_cases done : high ≤ low
    · rw [if_pos done]
      exact ⟨low, Session.run_pure _ u⟩
    · rw [if_neg done]
      obtain ⟨plainX, sort⟩ := all _ (getD_mem (i := low + (high - low) / 2) (by omega))
      obtain ⟨before, compared⟩ := run_isBefore_of_has plain plainX ⟨one, sort⟩ n u
      rw [Session.run_bind_of_ok compared]
      cases before with
      | true => exact ih (by omega)
      | false => exact ih within

/-- A value of another sort than those in order has none. -/
theorem run_placeBetween_of_other (plain : IsPlain v) (other : s.has v = false)
    (all : ∀ x ∈ sorted, IsPlain x ∧ s.has x = true) (steps : Nat) (within : high ≤ sorted.size)
    (room : low < high) (n : Nat) (u : World Workspace) :
    ((ofDepth (n + 1)).placeBetween .compare v sorted (steps + 1) low high).run u =
      (.error .wrongType, u) := by
  obtain ⟨plainX, sort⟩ := all _ (getD_mem (i := low + (high - low) / 2) (by omega))
  unfold placeBetween
  rw [if_neg (by omega)]
  exact Session.run_bind_of_error (run_isBefore_of_other plainX plain sort other n u).2

/-- Sooner or later a value of another sort comes up. -/
theorem run_insertAllSorted_of_other (some : 0 < sorted.size)
    (all : ∀ x ∈ sorted, IsPlain x ∧ s.has x = true) {left : List Value}
    (plain : ∀ x ∈ left, IsPlain x) (other : ∃ x ∈ left, s.has x = false) (n : Nat)
    (u : World Workspace) :
    ((ofDepth (n + 1)).insertAllSorted .compare sorted left).run u = (.error .wrongType, u) := by
  induction left generalizing sorted with
  | nil => simp at other
  | cons x left ih =>
    obtain ⟨plainX, plainLeft⟩ := List.forall_mem_cons.mp plain
    unfold insertAllSorted
    cases sort : s.has x with
    | false =>
      exact Session.run_bind_of_error
        (run_placeBetween_of_other plainX sort all sorted.size (Nat.le_refl _) some n u)
    | true =>
      obtain ⟨i, placed⟩ :
          ∃ i, ((ofDepth (n + 1)).placeBetween .compare x sorted (sorted.size + 1) 0
            sorted.size).run u = (.ok i, u) :=
        run_placeBetween plainX sort all _ (Nat.le_refl _) n u
      have later : ∃ y ∈ left, s.has y = false := by
        simpa [sort] using other
      refine (Session.run_bind_of_ok placed).trans (ih ?_ ?_ plainLeft later)
      · rw [List.size_toArray, List.length_append, List.length_cons]
        omega
      · intro y there
        rcases List.mem_append.mp (List.mem_toArray.mp there) with before | rest
        · exact all y (Array.mem_toList_iff.mp (List.mem_of_mem_take before))
        · rcases List.mem_cons.mp rest with rfl | after
          · exact ⟨plainX, sort⟩
          · exact all y (Array.mem_toList_iff.mp (List.mem_of_mem_drop after))

end Places

/-- Two plain values or more that are not of one sort have no order. -/
theorem run_sortByAsking_of_unordered {vs : List Value} (unordered : Unordered vs)
    (plain : ∀ x ∈ vs, IsPlain x) (n : Nat) (u : World Workspace) :
    ((ofDepth (n + 1)).sortByAsking .compare vs).run u = (.error .wrongType, u) := by
  obtain ⟨two, mixed⟩ := unordered
  match vs, two with
  | v :: w :: rest, _ =>
    obtain ⟨plainV, plainW, plainRest⟩ :
        IsPlain v ∧ IsPlain w ∧ ∀ x ∈ rest, IsPlain x := by simpa using plain
    unfold sortByAsking
    by_cases both : ∃ s : OrderedSort, s.has w = true ∧ s.has v = true
    · obtain ⟨s, sortW, sortV⟩ := both
      obtain ⟨falling, compared⟩ := run_isBefore_of_has plainW plainV ⟨sortW, sortV⟩ n u
      refine (Session.run_bind_of_ok compared).trans ?_
      rcases run_runFrom plainW sortW falling plainRest n u with
        fails | ⟨run, left, goesOn, rfl, all⟩
      · exact Session.run_bind_of_error fails
      · obtain ⟨plainRun, plainLeft⟩ := List.forall_mem_append.mp plainRest
        have start : ∀ x ∈ v :: w :: run, IsPlain x ∧ s.has x = true :=
          List.forall_mem_cons.mpr ⟨⟨plainV, sortV⟩, List.forall_mem_cons.mpr
            ⟨⟨plainW, sortW⟩, fun x there => ⟨plainRun x there, all x there⟩⟩⟩
        have other : ∃ x ∈ left, s.has x = false := by
          obtain ⟨x, there, other⟩ := mixed s
          have split : x ∈ (v :: w :: run) ++ left := there
          rcases List.mem_append.mp split with inStart | inLeft
          · exact absurd ((start x inStart).2.symm.trans other) (by decide)
          · exact ⟨x, inLeft, other⟩
        refine (Session.run_bind_of_ok goesOn).trans (Session.run_bind_of_error ?_)
        refine run_insertAllSorted_of_other ?_ (fun x there => start x ?_) plainLeft other n u
        · cases falling <;> simp
        · cases falling <;> simpa [or_assoc, or_comm, or_left_comm] using there
    · exact Session.run_bind_of_error (run_isBefore_of_not_has plainW plainV
        (fun s has => both ⟨s, has⟩) n u)

/-- Plain data is put in order without asking anyone, if it has one. -/
theorem run_sorted {vs : List Value} (plain : ∀ x ∈ vs, IsPlain x) (n : Nat)
    (u : World Workspace) : ((ofDepth (n + 1)).sorted vs).run u = (plainSorted vs, u) := by
  unfold sorted
  cases sorts : sortKeys? (vs.map (fun v => Key.ofValue v 0)) with
  | some ks =>
    simp only [plainSorted, sorts]
    exact Session.run_pure _ u
  | none =>
    have unordered := (sortKeys?_eq_none_iff plain).mp sorts
    have noViews : sameViews u.heap vs = false := by
      cases vs with
      | nil => rfl
      | cons v rest =>
        obtain ⟨plainV, -⟩ := List.forall_mem_cons.mp plain
        cases plainV <;> rfl
    rw [plainSorted_of_unordered plain unordered]
    simp only [sorts]
    refine (Session.run_bind_of_ok (run_seeing u _)).trans ?_
    rw [noViews]
    exact run_sortByAsking_of_unordered unordered plain n u

end Machine

end Script

end ObjectModel
