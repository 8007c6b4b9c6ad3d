/-!
# Ordered tables

A table maps keys to values and remembers the order in which the keys came. Writing a key that
is already there changes its value and keeps its place. Keys are compared by `==`, and the key
that was written first stays.
-/

namespace ObjectModel

structure Table (κ β : Type) where
  entries : List (κ × β)
  deriving DecidableEq

namespace Table

variable {κ β : Type}

def empty : Table κ β := ⟨[]⟩

instance : Inhabited (Table κ β) := ⟨empty⟩

def keys (t : Table κ β) : List κ := t.entries.map Prod.fst

def size (t : Table κ β) : Nat := t.entries.length

section Keyed

variable [BEq κ]

/-- The entries after `k` was given the value `v`. -/
def insertEntry (k : κ) (v : β) : List (κ × β) → List (κ × β)
  | [] => [(k, v)]
  | e :: rest => if e.1 == k then (e.1, v) :: rest else e :: insertEntry k v rest

def insert (t : Table κ β) (k : κ) (v : β) : Table κ β := ⟨insertEntry k v t.entries⟩

def find? (t : Table κ β) (k : κ) : Option β := (t.entries.find? (fun e => e.1 == k)).map Prod.snd

def contains (t : Table κ β) (k : κ) : Bool := t.entries.any (fun e => e.1 == k)

def erase (t : Table κ β) (k : κ) : Table κ β := ⟨t.entries.filter (fun e => !(e.1 == k))⟩

/-- Write the entries of `u` into `t`, in their order. -/
def merge (t u : Table κ β) : Table κ β := u.entries.foldl (fun t e => t.insert e.1 e.2) t

def ofList (es : List (κ × β)) : Table κ β := merge empty ⟨es⟩

@[simp] theorem find?_empty (k : κ) : (empty : Table κ β).find? k = none := rfl

@[simp] theorem contains_empty (k : κ) : (empty : Table κ β).contains k = false := rfl

theorem contains_eq_isSome_find? (t : Table κ β) (k : κ) : t.contains k = (t.find? k).isSome := by
  rw [Bool.eq_iff_iff]
  simp [contains, find?]

theorem find?_eq_none_iff (t : Table κ β) (k : κ) : t.find? k = none ↔ t.contains k = false := by
  rw [contains_eq_isSome_find?]; cases t.find? k <;> simp

@[simp] theorem merge_empty (t : Table κ β) : t.merge empty = t := rfl

theorem merge_cons (t : Table κ β) (e : κ × β) (es : List (κ × β)) :
    t.merge ⟨e :: es⟩ = (t.insert e.1 e.2).merge ⟨es⟩ := rfl

end Keyed

end Table

end ObjectModel
