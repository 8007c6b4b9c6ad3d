import Mathlib.Data.List.Induction
import ObjectModel.Table

/-!
# Laws of ordered tables

What is found in a table after a key was written, taken out or merged in, and where it stands. Keys
that are equal by `==` stand for each other, so most of the laws hold for the keys of member tables
as well as for texts. A table that was written entry by entry has each key at the place at which it
came first, with the value that it was given last.
-/

namespace ObjectModel.Table

variable {κ β : Type} [BEq κ]

theorem contains_iff_find? {t : Table κ β} {k : κ} :
    t.contains k = true ↔ ∃ v, t.find? k = some v := by
  rw [contains_eq_isSome_find?, Option.isSome_iff_exists]

private theorem keys_insertEntry (k : κ) (v : β) (es : List (κ × β)) :
    (insertEntry k v es).map Prod.fst =
      if es.any (fun e => e.1 == k) then es.map Prod.fst else es.map Prod.fst ++ [k] := by
  induction es with
  | nil => rfl
  | cons e es ih =>
    by_cases he : (e.1 == k) = true
    · simp [insertEntry, he]
    · simp only [insertEntry, he, Bool.false_eq_true, if_false, List.map_cons, ih, List.any_cons,
        Bool.false_or]
      split <;> rfl

/-- A key that is new comes behind the others. -/
theorem keys_insert (t : Table κ β) (k : κ) (v : β) :
    (t.insert k v).keys = if t.contains k then t.keys else t.keys ++ [k] :=
  keys_insertEntry k v t.entries

theorem merge_append (t : Table κ β) (es fs : List (κ × β)) :
    t.merge ⟨es ++ fs⟩ = (t.merge ⟨es⟩).merge ⟨fs⟩ := by
  simp [merge]

theorem ofList_concat (es : List (κ × β)) (e : κ × β) :
    ofList (es ++ [e]) = (ofList es).insert e.1 e.2 :=
  merge_append empty es [e]

variable [EquivBEq κ]

private theorem find?_insertEntry_self (k : κ) (v : β) (es : List (κ × β)) :
    (insertEntry k v es).find? (fun e => e.1 == k) =
      some (((es.find? (fun e => e.1 == k)).map Prod.fst).getD k, v) := by
  induction es with
  | nil => simp [insertEntry]
  | cons e es ih => by_cases he : (e.1 == k) = true <;> simp [insertEntry, he, ih]

private theorem find?_insertEntry_of_ne {k k' : κ} (hne : (k == k') = false) (v : β)
    (es : List (κ × β)) :
    (insertEntry k v es).find? (fun e => e.1 == k') = es.find? (fun e => e.1 == k') := by
  induction es with
  | nil => simp [insertEntry, hne]
  | cons e es ih =>
    by_cases he : (e.1 == k) = true
    · have he' : (e.1 == k') = false := by rw [BEq.congr_left he, hne]
      simp [insertEntry, he, he']
    · simp only [insertEntry, he, Bool.false_eq_true, if_false, List.find?_cons, ih]

theorem find?_insert (t : Table κ β) (k k' : κ) (v : β) :
    (t.insert k v).find? k' = if k == k' then some v else t.find? k' := by
  cases h : k == k' with
  | true =>
    have hp : (fun e : κ × β => e.1 == k') = fun e => e.1 == k := by
      funext e
      exact (BEq.congr_right h).symm
    simp [find?, insert, hp, find?_insertEntry_self]
  | false => simp [find?, insert, find?_insertEntry_of_ne h]

theorem find?_insert_of_ne {k k' : κ} (h : (k == k') = false) (t : Table κ β) (v : β) :
    (t.insert k v).find? k' = t.find? k' := by
  simp [find?_insert, h]

theorem contains_insert (t : Table κ β) (k k' : κ) (v : β) :
    (t.insert k v).contains k' = (k == k' || t.contains k') := by
  rw [contains_eq_isSome_find?, contains_eq_isSome_find?, find?_insert]
  cases k == k' <;> simp

theorem find?_erase (t : Table κ β) (k k' : κ) :
    (t.erase k).find? k' = if k == k' then none else t.find? k' := by
  simp only [erase, find?, List.find?_filter]
  cases h : k == k' with
  | true =>
    have hp : (fun e : κ × β => !(e.1 == k) && e.1 == k') = fun _ => false := by
      funext e
      rw [BEq.congr_right h]
      cases e.1 == k' <;> rfl
    simp [hp]
  | false =>
    have hp : (fun e : κ × β => !(e.1 == k) && e.1 == k') = fun e => e.1 == k' := by
      funext e
      cases he : e.1 == k' with
      | false => simp
      | true => simp [BEq.congr_left he, BEq.symm_false h]
    simp [hp]

theorem find?_erase_of_ne {k k' : κ} (h : (k == k') = false) (t : Table κ β) :
    (t.erase k).find? k' = t.find? k' := by
  simp [find?_erase, h]

/-- To take out a key that was new undoes its being written. -/
theorem erase_insert_of_not_contains {t : Table κ β} {k : κ} (new : t.contains k = false) (v : β) :
    (t.insert k v).erase k = t := by
  obtain ⟨es⟩ := t
  simp only [contains, List.any_eq_false] at new
  simp only [insert, erase, mk.injEq]
  induction es with
  | nil => simp [insertEntry]
  | cons e es ih =>
    have he : (e.1 == k) = false := by simpa using new e (by simp)
    simp only [insertEntry, he, Bool.false_eq_true, if_false, List.filter_cons, Bool.not_false,
      if_true]
    rw [ih (fun e' he' => new e' (List.mem_cons_of_mem _ he'))]

theorem contains_merge (t u : Table κ β) (k : κ) :
    (t.merge u).contains k = (t.contains k || u.contains k) := by
  obtain ⟨es⟩ := u
  induction es generalizing t with
  | nil => simp [merge, contains]
  | cons e es ih =>
    rw [merge_cons, ih, contains_insert]
    simp only [contains, List.any_cons]
    cases e.1 == k <;> simp

/-- What is merged in hides what was there before. -/
theorem find?_merge (t u : Table κ β) (k : κ) :
    (t.merge u).find? k = ((ofList u.entries).find? k).or (t.find? k) := by
  obtain ⟨es⟩ := u
  induction es generalizing t with
  | nil => rfl
  | cons e es ih =>
    have first : (ofList (e :: es)).find? k =
        ((ofList es).find? k).or ((empty.insert e.1 e.2 : Table κ β).find? k) := ih _
    rw [merge_cons, ih, first, find?_insert, find?_insert]
    cases e.1 == k <;> simp

theorem contains_ofList (es : List (κ × β)) (k : κ) :
    (ofList es).contains k = es.any (fun e => e.1 == k) :=
  contains_merge empty ⟨es⟩ k

/-- The first of several equal members is the one that stays. -/
theorem eraseDups_concat (ks : List κ) (k : κ) :
    (ks ++ [k]).eraseDups =
      if ks.any (· == k) then ks.eraseDups else ks.eraseDups ++ [k] := by
  induction hn : ks.length using Nat.strongRecOn generalizing ks with
  | ind n ih =>
    cases ks with
    | nil => rfl
    | cons k₀ ks =>
      have shorter : (ks.filter (fun k' => !k' == k₀)).length < n := by
        have := List.length_filter_le (fun k' => !k' == k₀) ks
        simp only [List.length_cons] at hn
        omega
      rw [List.cons_append, List.eraseDups_cons, List.filter_append, List.eraseDups_cons,
        List.any_cons]
      cases same : k₀ == k with
      | true => simp [BEq.symm same]
      | false =>
        -- what is equal to the last member is not among those that are left out
        have apart : (ks.filter (fun k' => !k' == k₀)).any (· == k) = ks.any (· == k) := by
          rw [List.any_filter]
          congr 1
          funext k'
          cases there : k' == k with
          | false => simp
          | true => simp [BEq.congr_left there, BEq.symm_false same]
        have last : [k].filter (fun k' => !k' == k₀) = [k] := by simp [BEq.symm_false same]
        rw [last, ih _ shorter _ rfl, apart, Bool.false_or]
        split <;> rfl

/-- Each key is at the place at which it came first. -/
theorem keys_ofList (es : List (κ × β)) : (ofList es).keys = (es.map Prod.fst).eraseDups := by
  induction es using List.reverseRecOn with
  | nil => rfl
  | append_singleton es e ih =>
    rw [ofList_concat, keys_insert, ih, contains_ofList, List.map_append, List.map_singleton,
      eraseDups_concat, List.any_map]
    rfl

/-- The value of a key is the last one that it was given. -/
theorem find?_ofList (es : List (κ × β)) (k : κ) : (ofList es).find? k = es.reverse.lookup k := by
  induction es using List.reverseRecOn with
  | nil => rfl
  | append_singleton es e ih =>
    rw [ofList_concat, find?_insert, ih, List.reverse_concat, List.lookup_cons, BEq.comm]
    cases k == e.1 <;> rfl

section Lawful

variable {κ : Type} [BEq κ] [LawfulBEq κ]

theorem contains_iff_mem_keys {t : Table κ β} {k : κ} : t.contains k = true ↔ k ∈ t.keys := by
  simp [contains, keys]

theorem nodup_keys_ofList (es : List (κ × β)) : (ofList es).keys.Nodup := by
  induction es using List.reverseRecOn with
  | nil => exact List.nodup_nil
  | append_singleton es e ih =>
    rw [ofList_concat, keys_insert]
    split
    · exact ih
    · rename_i new
      rw [contains_iff_mem_keys] at new
      have apart : ∀ a ∈ (ofList es).keys, a ≠ e.1 := fun a ha same => new (same ▸ ha)
      exact List.nodup_append.mpr ⟨ih, by simp, by simpa using apart⟩

end Lawful

end ObjectModel.Table
