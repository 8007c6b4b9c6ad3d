import ObjectModel.Proofs.KeyOrder
import ObjectModel.Proofs.MemberTables

/-!
# Descriptions of definitions

Plain data is shown without asking anyone, and so is a definition all of whose names and keys are
plain data. Its description fails at the first of the tables of statics, private methods and public
methods that cannot be shown: because its keys have no order, or else because one of them is an
integer with too many digits.
-/

namespace ObjectModel

/-- What has just been computed goes on with what is computed from it. -/
theorem Session.run_bind_of_pure {σ ω α β : Type} {s : Session σ ω α} {k : α → Session σ ω β}
    {r : Except Fault α} {k' : α → Except Fault β} {w : World σ} (first : s.run w = (r, w))
    (rest : ∀ a, r = .ok a → (k a).run w = (k' a, w)) : (s >>= k).run w = (r >>= k', w) := by
  cases r with
  | error f => exact Session.run_bind_of_error first
  | ok a => exact (Session.run_bind_of_ok first).trans (rest a rfl)

theorem Session.run_ite_of_pure {σ ω α β : Type} {b : Bool} {s s' : Session σ ω α}
    {k : α → Session σ ω β} {r r' : Except Fault α} {k' : α → Except Fault β} {w : World σ}
    (yes : s.run w = (r, w)) (no : s'.run w = (r', w)) (rest : ∀ a, (k a).run w = (k' a, w)) :
    (if b = true then s >>= k else s' >>= k).run w =
      (if b = true then r >>= k' else r' >>= k', w) := by
  cases b with
  | true => exact run_bind_of_pure yes (fun a _ => rest a)
  | false => exact run_bind_of_pure no (fun a _ => rest a)

namespace Script

/-- The name of a class, or nothing. -/
inductive IsName : Value → Prop
  | null : IsName .null
  | text (s : String) : IsName (.text s)

theorem IsName.isPlain {v : Value} (name : IsName v) : IsPlain v := by
  cases name with
  | null => exact .null
  | text s => exact .text s

theorem IsName.eq_null_or_text {v : Value} (name : IsName v) :
    v = .null ∨ ∃ s, v = .text s := by
  cases name with
  | null => exact .inl rfl
  | text s => exact .inr ⟨s, rfl⟩

/-- How plain data is shown. -/
def plainDisplay : Display (Except Fault) where
  text
    | .text s => .ok s
    | _ => .error .wrongType
  spoken
    | .text s => .ok s
    | v => listedText v
  repr := listedText
  typeName
    | .null => .ok "NoneType"
    | .bool _ => .ok "bool"
    | .int _ => .ok "int"
    | .text _ => .ok "str"
    | _ => .error .wrongType
  truth
    | .null => .ok false
    | .bool b => .ok b
    | .int n => .ok (n != 0)
    | .text s => .ok (s.length != 0)
    | _ => .error .wrongType
  sorted := plainSorted

/-- A way to show values, as it is for plain data. -/
structure ShowsPlain (d : Display Prog) (w : World Workspace) : Prop where
  text : ∀ v, IsPlain v → (d.text v).run w = (plainDisplay.text v, w)
  spoken : ∀ v, IsPlain v → (d.spoken v).run w = (plainDisplay.spoken v, w)
  repr : ∀ v, IsPlain v → (d.repr v).run w = (plainDisplay.repr v, w)
  typeName : ∀ v, IsPlain v → (d.typeName v).run w = (plainDisplay.typeName v, w)
  truth : ∀ v, IsPlain v → (d.truth v).run w = (plainDisplay.truth v, w)
  sorted : ∀ vs, (∀ v ∈ vs, IsPlain v) → (d.sorted vs).run w = (plainDisplay.sorted vs, w)

namespace Machine

variable {v : Value}

theorem run_str (plain : IsPlain v) (n : Nat) (w : World Workspace) :
    ((ofDepth (n + 2)).str v).run w = (plainDisplay.spoken v, w) := by
  have asked (noHook : w.heap.hookOf? v "__str__" = none) :
      ((ofDepth (n + 1)).askHook? v "__str__" []).run w = (.ok none, w) :=
    run_askHook?_of_none noHook []
  cases plain with
  | text s => exact Session.run_pure _ w
  | null => exact (Session.run_bind_of_ok (asked rfl)).trans (run_repr .null n w)
  | bool b => exact (Session.run_bind_of_ok (asked rfl)).trans (run_repr (.bool b) n w)
  | int k => exact (Session.run_bind_of_ok (asked rfl)).trans (run_repr (.int k) n w)

theorem run_spoken (plain : IsPlain v) (n : Nat) (w : World Workspace) :
    ((ofDepth (n + 2)).spoken v).run w = (plainDisplay.spoken v, w) := by
  have asked (noHook : w.heap.hookOf? v "__format__" = none) :
      ((ofDepth (n + 2)).askHook? v "__format__" [.text ""]).run w = (.ok none, w) :=
    run_askHook?_of_none noHook _
  cases plain with
  | text s => exact Session.run_pure _ w
  | null => exact (Session.run_bind_of_ok (asked rfl)).trans (run_str .null n w)
  | bool b => exact (Session.run_bind_of_ok (asked rfl)).trans (run_str (.bool b) n w)
  | int k => exact (Session.run_bind_of_ok (asked rfl)).trans (run_str (.int k) n w)

theorem showsPlain (n : Nat) (w : World Workspace) : ShowsPlain (ofDepth (n + 2)).display w where
  text v plain := by
    cases plain with
    | text s => exact Session.run_pure _ w
    | null | bool b | int k => exact Session.run_throw _ w
  spoken v plain := run_spoken plain n w
  repr v plain := run_repr plain (n + 1) w
  typeName v plain := by cases plain <;> exact Session.run_pure _ w
  truth v plain := by cases plain <;> exact Session.run_pure _ w
  sorted vs plain := run_sorted plain (n + 1) w

end Machine

/-- A key of plain data. As the name of a hook it is not read as data about a type. -/
def PlainKey (part : Section) (k : Key) : Prop :=
  IsPlain k.toValue ∧ (part = .operators → ∀ s ∈ typeDataNames, k ≠ .text s)

/-- All keys of a table are plain data. -/
def PlainKeys (part : Section) (t : Table Key Value) : Prop :=
  t.Entries (PlainKey part) (fun _ => True)

theorem PlainKeys.isPlain {part : Section} {t : Table Key Value} (plain : PlainKeys part t) :
    ∀ k ∈ t.keys, IsPlain k.toValue := by
  intro k there
  obtain ⟨e, listed, rfl⟩ := List.mem_map.mp there
  exact (plain e listed).1.1

/-- A definition all of whose names and keys are plain data. -/
structure HasPlainNames (r : Definition) : Prop where
  name : IsName r.name
  parent : IsName r.parent
  keys : ∀ part, PlainKeys part (r.table part)

/-- Besides, the hooks are named as hooks are. -/
structure PlainDefinition (r : Definition) : Prop extends HasPlainNames r where
  hooks : ∀ k ∈ r.operators.keys, ∃ s, k = .text s ∧ HookName s

section Showing

variable {d : Display Prog} {w : World Workspace} {r : Definition} {t : Table Key Value}
  {vs : List Value}

theorem ShowsPlain.run_mapM (shows : ShowsPlain d w) (plain : ∀ v ∈ vs, IsPlain v) :
    (vs.mapM d.repr).run w = (vs.mapM listedText, w) := by
  have loop (acc : List String) : (List.mapM.loop d.repr vs acc).run w =
      (List.mapM.loop listedText vs acc, w) := by
    induction vs generalizing acc with
    | nil => exact Session.run_pure _ w
    | cons v vs ih =>
      obtain ⟨plain, rest⟩ := List.forall_mem_cons.mp plain
      exact Session.run_bind_of_pure (shows.repr v plain) (fun s _ => ih rest (s :: acc))
  exact loop []

theorem ShowsPlain.run_describeTable (shows : ShowsPlain d w)
    (plain : ∀ k ∈ t.keys, IsPlain k.toValue) (label : String) :
    (describeTable d label t).run w = (describeTable plainDisplay label t, w) := by
  have values : ∀ v ∈ t.keys.map Key.toValue, IsPlain v := List.forall_mem_map.mpr plain
  refine Session.run_bind_of_pure (shows.sorted _ values) (fun us sorts => ?_)
  have members : ∀ v ∈ us, IsPlain v := by
    intro v there
    by_cases unordered : Unordered (t.keys.map Key.toValue)
    · cases (plainSorted_of_unordered values unordered).symm.trans sorts
    · obtain ⟨us', sorts', same⟩ := exists_plainSorted values unordered
      cases sorts.symm.trans sorts'
      exact values v ((same v).mp there)
  exact Session.run_bind_of_pure (shows.run_mapM members) (fun _ _ => Session.run_pure _ w)

/-- The description of a definition with plain data. -/
theorem ShowsPlain.run_describe (shows : ShowsPlain d w) (plain : PlainDefinition r) :
    (r.describe d).run w = (r.describe plainDisplay, w) := by
  have spoken {v : Value} (name : IsName v) :
      (d.spoken v).run w = (plainDisplay.spoken v, w) := shows.spoken v name.isPlain
  have table (label : String) (part : Section) :
      (describeTable d label (r.table part)).run w =
        (describeTable plainDisplay label (r.table part), w) :=
    shows.run_describeTable (plain.keys part).isPlain label
  refine Session.run_bind_of_pure (shows.truth _ plain.parent.isPlain) (fun b _ => ?_)
  refine Session.run_ite_of_pure
    (Session.run_bind_of_pure (spoken plain.parent) (fun _ _ => Session.run_pure _ w))
    (Session.run_pure _ w) (fun p => ?_)
  refine Session.run_bind_of_pure (spoken plain.name) (fun _ _ => ?_)
  refine Session.run_bind_of_pure (table "static" .statics) (fun _ _ => ?_)
  refine Session.run_bind_of_pure (table "private" .privates) (fun _ _ => ?_)
  refine Session.run_bind_of_pure (table "public" .publics) (fun _ _ => ?_)
  refine Session.run_bind_of_pure (table "operators" .operators) (fun _ _ => ?_)
  exact Session.run_pure _ w

end Showing

theorem powerOfTen_le_powerOfTwo {d n : Nat} (large : 4 * d ≤ n) : powerOfTen d ≤ powerOfTwo n :=
  calc
    10 ^ d ≤ 16 ^ d := Nat.pow_le_pow_left (by decide) d
    _ = 2 ^ (4 * d) := (Nat.pow_mul 2 4 d).symm
    _ ≤ 2 ^ n := Nat.pow_le_pow_right (by decide) large

theorem isTooLong_powerOfTwo {n : Nat} (large : 4 * Text.maxDigits ≤ n) :
    Text.isTooLong (Int.ofNat (powerOfTwo n)) = true := by
  have bits : (powerOfTwo n).log2 = n := Nat.log2_two_pow
  have long : 14280 ≤ (powerOfTwo n).log2 := by
    rw [bits]
    exact Nat.le_trans (by decide) large
  rw [Text.isTooLong, Bool.and_eq_true, decide_eq_true_eq, decide_eq_true_eq]
  exact ⟨long, powerOfTen_le_powerOfTwo large⟩

/-- An integer with too many digits to be shown. -/
def isTooLong : Value → Bool
  | .int n => Text.isTooLong n
  | _ => false

/-- Why a table cannot be shown by its keys, if it cannot. -/
def tableFault? (t : Table Key Value) : Option ErrorKind :=
  let keys := t.keys.map Key.toValue
  if Unordered keys then some .typeError
  else if keys.any isTooLong then some .valueError
  else none

/-- Why a definition cannot be described, if it cannot: what is wrong with the first of its tables
that cannot be shown. Hooks can always be shown. -/
def descriptionFault? (r : Definition) : Option ErrorKind :=
  [r.statics, r.privates, r.publics].findSome? tableFault?

/-- A result fails by what is wrong, if anything is. -/
def FailsBy {α : Type} (x : Except Fault α) : Option ErrorKind → Prop
  | some k => x = .error (.plain k)
  | none => ∃ a, x = .ok a

theorem FailsBy.bind {α β : Type} {x : Except Fault α} {f : α → Except Fault β}
    {o o' : Option ErrorKind} (first : FailsBy x o)
    (rest : ∀ a, x = .ok a → FailsBy (f a) o') : FailsBy (x >>= f) (o.or o') := by
  cases o with
  | some k =>
    obtain rfl : x = .error (.plain k) := first
    rfl
  | none =>
    obtain ⟨a, rfl⟩ : ∃ a, x = .ok a := first
    exact rest a rfl

section Faults

variable {v : Value} {vs : List Value} {t : Table Key Value} {r : Definition}

theorem failsBy_ok {α : Type} (a : α) : FailsBy (.ok a : Except Fault α) none := ⟨a, rfl⟩

theorem failsBy_listedText (plain : IsPlain v) :
    FailsBy (listedText v) (if isTooLong v then some .valueError else none) := by
  cases plain with
  | int n =>
    change FailsBy (if Text.isTooLong n then _ else _) (if Text.isTooLong n then _ else _)
    cases Text.isTooLong n with
    | true => rfl
    | false => exact failsBy_ok _
  | null | bool b | text s => exact failsBy_ok _

theorem failsBy_mapM_listedText (plain : ∀ v ∈ vs, IsPlain v) :
    FailsBy (vs.mapM listedText) (if vs.any isTooLong then some .valueError else none) := by
  induction vs with
  | nil => exact failsBy_ok []
  | cons v vs ih =>
    obtain ⟨plain, rest⟩ := List.forall_mem_cons.mp plain
    have both : (if (v :: vs).any isTooLong then some ErrorKind.valueError else none) =
        (if isTooLong v then some .valueError else none).or
          ((if vs.any isTooLong then some .valueError else none).or none) := by
      rw [List.any_cons]
      cases isTooLong v <;> cases vs.any isTooLong <;> rfl
    rw [List.mapM_cons, both]
    exact (failsBy_listedText plain).bind (fun s _ => (ih rest).bind (fun ss _ => failsBy_ok _))

theorem failsBy_describeTable (plain : ∀ k ∈ t.keys, IsPlain k.toValue) (label : String) :
    FailsBy (describeTable plainDisplay label t) (tableFault? t) := by
  have values : ∀ v ∈ t.keys.map Key.toValue, IsPlain v := List.forall_mem_map.mpr plain
  by_cases unordered : Unordered (t.keys.map Key.toValue)
  · rw [tableFault?, if_pos unordered]
    change plainSorted _ >>= _ = _
    rw [plainSorted_of_unordered values unordered]
    rfl
  · obtain ⟨us, sorts, same⟩ := exists_plainSorted values unordered
    have long : (t.keys.map Key.toValue).any isTooLong = us.any isTooLong := by
      rw [Bool.eq_iff_iff, List.any_eq_true, List.any_eq_true]
      simp only [same]
    have members : ∀ v ∈ us, IsPlain v := fun v there => values v ((same v).mp there)
    have fault : tableFault? t =
        (if us.any isTooLong then some ErrorKind.valueError else none).or none := by
      rw [tableFault?, if_neg unordered, long, Option.or_none]
    rw [fault]
    change FailsBy (plainSorted _ >>= _) _
    rw [sorts]
    exact (failsBy_mapM_listedText members).bind (fun ss _ => failsBy_ok _)

/-- Hooks are all texts, so they have an order and are not too long. -/
theorem tableFault?_of_texts (texts : ∀ k ∈ t.keys, ∃ s, k = .text s) : tableFault? t = none := by
  have values : ∀ v ∈ t.keys.map Key.toValue, ∃ s, v = .text s := by
    refine List.forall_mem_map.mpr (fun k there => ?_)
    obtain ⟨s, rfl⟩ := texts k there
    exact ⟨s, rfl⟩
  have ordered : ¬ Unordered (t.keys.map Key.toValue) := by
    rintro ⟨-, mixed⟩
    obtain ⟨v, there, other⟩ := mixed .texts
    obtain ⟨s, rfl⟩ := values v there
    cases other
  have short : (t.keys.map Key.toValue).any isTooLong = false := by
    refine List.any_eq_false.mpr (fun v there => ?_)
    obtain ⟨s, rfl⟩ := values v there
    exact Bool.false_ne_true
  rw [tableFault?, if_neg ordered, short]
  rfl

/-- A definition is described unless one of its tables cannot be shown. -/
theorem failsBy_describe (plain : PlainDefinition r) :
    FailsBy (r.describe plainDisplay) (descriptionFault? r) := by
  have spoken {v : Value} (name : IsName v) : FailsBy (plainDisplay.spoken v) none := by
    cases name <;> exact failsBy_ok _
  have truth {v : Value} (name : IsName v) : FailsBy (plainDisplay.truth v) none := by
    cases name <;> exact failsBy_ok _
  have table (label : String) (part : Section) :
      FailsBy (describeTable plainDisplay label (r.table part)) (tableFault? (r.table part)) :=
    failsBy_describeTable (plain.keys part).isPlain label
  have tables : descriptionFault? r = (tableFault? r.statics).or ((tableFault? r.privates).or
      ((tableFault? r.publics).or ((tableFault? r.operators).or none))) := by
    have texts : ∀ k ∈ r.operators.keys, ∃ s, k = .text s := fun k there =>
      (plain.hooks k there).imp (fun _ hook => hook.1)
    rw [tableFault?_of_texts texts, descriptionFault?]
    cases h : tableFault? r.statics <;> cases h' : tableFault? r.privates <;>
      cases h'' : tableFault? r.publics <;> simp [h, h', h'']
  have rest (parent : String) := (spoken plain.name).bind (fun name _ =>
    (table "static" .statics).bind (fun statics _ =>
    (table "private" .privates).bind (fun privates _ =>
    (table "public" .publics).bind (fun publics _ =>
    (table "operators" .operators).bind (fun operators _ =>
    failsBy_ok (definitionLine name parent [statics, privates, publics, operators]))))))
  rw [tables]
  refine (truth plain.parent).bind (fun b _ => ?_)
  cases b with
  | true => exact ((spoken plain.parent).bind (fun s _ => failsBy_ok _)).bind (fun s _ => rest s)
  | false => exact rest ""

end Faults

end Script

end ObjectModel
