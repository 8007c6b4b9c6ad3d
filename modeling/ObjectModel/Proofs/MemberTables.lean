import ObjectModel.Definition
import ObjectModel.Proofs.TableLaws

/-!
# Tables of members

A section takes a table if it takes all of its keys and values. Methods and hooks can be called, the
parent handle names no member, and hooks have special names that are not reserved. Nothing but this
is asked of a table.
-/

namespace ObjectModel

namespace Table

variable {κ β : Type} {P : κ → Prop} {Q : β → Prop} {t u : Table κ β}

/-- All keys of a table are `P` and all of its values `Q`. -/
def Entries (P : κ → Prop) (Q : β → Prop) (t : Table κ β) : Prop :=
  ∀ e ∈ t.entries, P e.1 ∧ Q e.2

theorem entries_empty : (empty : Table κ β).Entries P Q := by
  intro e he
  cases he

theorem Entries.mono (all : t.Entries P Q) {Q' : β → Prop} (weaker : ∀ v, Q v → Q' v) :
    t.Entries P Q' :=
  fun e he => (all e he).imp_right (weaker e.2)

variable [BEq κ]

theorem Entries.insert (all : t.Entries P Q) {k : κ} {v : β} (hk : P k) (hv : Q v) :
    (t.insert k v).Entries P Q := by
  obtain ⟨es⟩ := t
  simp only [Entries, Table.insert] at all ⊢
  induction es with
  | nil => simpa [insertEntry] using ⟨hk, hv⟩
  | cons e es ih =>
    obtain ⟨first, rest⟩ := List.forall_mem_cons.mp all
    rw [insertEntry]
    split
    · exact List.forall_mem_cons.mpr ⟨⟨first.1, hv⟩, rest⟩
    · exact List.forall_mem_cons.mpr ⟨first, ih rest⟩

theorem Entries.merge (all : t.Entries P Q) (more : u.Entries P Q) : (t.merge u).Entries P Q := by
  obtain ⟨es⟩ := u
  induction es generalizing t with
  | nil => exact all
  | cons e es ih =>
    obtain ⟨first, rest⟩ := List.forall_mem_cons.mp more
    rw [merge_cons]
    exact ih (all.insert first.1 first.2) rest

theorem Entries.find? (all : t.Entries P Q) {k : κ} {v : β} (found : t.find? k = some v) :
    Q v ∧ ∃ k', P k' ∧ (k' == k) = true := by
  obtain ⟨e, he, rfl⟩ := Option.map_eq_some_iff.mp found
  have hP := all e (List.mem_of_find?_eq_some he)
  exact ⟨hP.2, e.1, hP.1, by simpa using List.find?_some he⟩

end Table

/-- The name of an operator hook: it starts and ends with two underscores, has something between
them, and is not reserved. -/
structure HookName (name : String) : Prop where
  long : 4 < name.length
  opens : ['_', '_'] <+: name.toList
  closes : ['_', '_'] <:+ name.toList
  free : name ∉ reservedOperators

theorem isSpecial_iff {name : String} :
    isSpecial name = true ↔ ['_', '_'] <+: name.toList ∧ ['_', '_'] <:+ name.toList := by
  have closes : ['_', '_'] <:+ name.toList ↔ ['_', '_'] <+: name.toList.reverse :=
    List.reverse_prefix.symm
  rw [closes, List.prefix_iff_eq_take, List.prefix_iff_eq_take]
  simp only [isSpecial, Bool.and_eq_true, beq_iff_eq]
  exact and_congr eq_comm eq_comm

theorem isHookName_iff {name : String} : isHookName name = true ↔ HookName name := by
  have notReserved : (!reservedOperators.contains name) = true ↔ name ∉ reservedOperators := by
    rw [Bool.not_eq_true', ← Bool.not_eq_true, List.contains_iff_mem]
  rw [isHookName, Bool.and_eq_true, Bool.and_eq_true, decide_eq_true_eq, isSpecial_iff, notReserved]
  constructor
  · rintro ⟨⟨long, opens, closes⟩, free⟩
    exact ⟨long, opens, closes, free⟩
  · rintro ⟨long, opens, closes, free⟩
    exact ⟨⟨long, opens, closes⟩, free⟩

namespace Section

/-- The keys that a section takes. -/
def TakesKey : Section → Key → Prop
  | .operators, key => ∃ name, key = .text name ∧ HookName name
  | _, key => (key == .text parentHandle) = false

/-- The values that a section takes. -/
def TakesValue (callable : Value → Bool) : Section → Value → Prop
  | .statics, _ => True
  | _, value => callable value = true

variable {callable : Value → Bool} {part : Section}

theorem TakesValue.mono {callable' : Value → Bool}
    (more : ∀ v, callable v = true → callable' v = true) {v : Value}
    (takes : part.TakesValue callable v) : part.TakesValue callable' v := by
  cases part with
  | statics => trivial
  | privates | publics | operators => exact more v takes

/-- An entry breaks no rule of a section exactly if the section takes its key and its value. -/
theorem offence_eq_none {key : Key} {value : Value} :
    part.offence callable (key, value) = none ↔
      part.TakesKey key ∧ part.TakesValue callable value := by
  cases part with
  | statics => simp [offence, TakesKey, TakesValue]
  | privates | publics =>
    simp only [offence, TakesKey, TakesValue]
    cases key == .text parentHandle <;> cases callable value <;> simp
  | operators =>
    simp only [offence, TakesKey, TakesValue, ← isHookName_iff]
    cases key with
    | value v code => cases callable value <;> simp
    | text name =>
      cases hv : callable value with
      | false => simp
      | true =>
        by_cases reserved : name ∈ reservedOperators
        · simp [reserved, isHookName]
        · simp [reserved]

theorem check_eq_ok {t : Table Key Value} :
    part.check callable t = .ok () ↔ t.Entries part.TakesKey (part.TakesValue callable) := by
  have inoffensive : t.entries.findSome? (part.offence callable) = none ↔
      t.Entries part.TakesKey (part.TakesValue callable) := by
    simp only [List.findSome?_eq_none_iff, Table.Entries, Prod.forall, offence_eq_none]
  rw [← inoffensive, check]
  split <;> simp_all

/-- A table that is fit for a section of members has no entry under the name of the parent handle. -/
theorem not_contains_parentHandle {t : Table Key Value} (hpart : part ≠ .operators)
    (fit : part.check callable t = .ok ()) : t.contains (.text parentHandle) = false := by
  have entries := check_eq_ok.mp fit
  refine List.any_eq_false.mpr (fun e he => ?_)
  cases part with
  | operators => exact absurd rfl hpart
  | statics | privates | publics => exact Bool.eq_false_iff.mp (entries e he).1

end Section

end ObjectModel
