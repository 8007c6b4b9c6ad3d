import ObjectModel.Proofs.LineageWalks
import ObjectModel.Proofs.Runs

/-!
# Registrations

A class is made by being registered, with the operator hooks that its definition has at that moment,
and it keeps them. Of all the definitions that were registered in a catalog under one name, the
catalog has the last one. Therefore an ancestor of a class is, at the moment at which it is asked
for, the definition that was registered last under its name.
-/

namespace ObjectModel

namespace Heap

/-- The class `r` is put behind the others and into its catalog. -/
structure Registers (h : Heap) (r : Class) (h' : Heap) : Prop where
  inCatalog : h.catalogs.contains r.catalog = true
  classes : h'.classes = h.classes.push r
  catalogs : h'.catalogs =
    h.catalogs.modify r.catalog (fun s => ⟨s.classes.insert r.typeName h.classes.next⟩)

/-- No class is made, and no catalog has other classes than before. -/
structure RegistersNone (h h' : Heap) : Prop where
  classes : h'.classes = h.classes
  catalogs : ∀ k, h'.catalogs.get k = h.catalogs.get k

theorem RegistersNone.refl (h : Heap) : h.RegistersNone h := ⟨rfl, fun _ => rfl⟩

/-- What is no registration registers nothing. -/
theorem Step.registersNone {σ : Type} {a : Action σ} {h h' : Heap} (hs : h.Step a h')
    (notRegister : ∀ k d, a ≠ .register k d)
    (notOutside : ∀ k name hooks, a ≠ .registerOutside k name hooks) : h.RegistersNone h' := by
  cases hs with
  | newCatalog =>
    refine ⟨rfl, fun k => ?_⟩
    change (h.catalogs.push default).get k = _
    rw [Store.get_push]
    split
    · rename_i new
      rw [new, Store.get_of_not_contains (Store.contains_next _)]
    · rfl
  | register _ _ _ => exact absurd rfl (notRegister _ _)
  | registerOutside _ _ _ => exact absurd rfl (notOutside _ _ _)
  | _ => exact ⟨rfl, fun _ => rfl⟩

end Heap

/-- The catalog in which an action may register a class. -/
def Action.catalog? {σ : Type} : Action σ → Option (Ref .catalog)
  | .register c _ | .registerOutside c _ _ => some c
  | _ => none

namespace World

variable {σ : Type}

/-- The class that an action makes and registers. -/
def made? (w : World σ) : Action σ → Option Class
  | .register k d =>
    if (w.perform (.register k d)).1.isOk = true then
      some ⟨d, k, (w.heap.definition d).name.plainText, (w.heap.definition d).operators⟩
    else none
  | .registerOutside k name hooks =>
    if (w.perform (.registerOutside k name hooks)).1.isOk = true then
      some ⟨w.heap.definitions.next, k, name, hooks⟩
    else none
  | _ => none

theorem perform_register_cases (w : World σ) (c : Ref .catalog) (d : Ref .definition) :
    (∃ name h, (w.heap.definition d).name = .text name ∧
      w.perform (.register c d) = (.ok w.heap.classes.next, w.setHeap h) ∧
      w.heap.Registers ⟨d, c, name, (w.heap.definition d).operators⟩ h) ∨
    ∃ e, w.perform (.register c d) = (.error e, w) := by
  rcases w.guarded_updateWith_cases
    (w.heap.catalogs.contains c && w.heap.definitions.contains d) (w.heap.register c d) with
    ⟨there, x, registered, done⟩ | ⟨e, failed⟩
  · rw [Bool.and_eq_true] at there
    obtain ⟨name, named, rfl⟩ := Heap.register_eq_ok registered
    exact .inl ⟨name, _, named, done, there.1, rfl, rfl⟩
  · exact .inr ⟨e, failed⟩

theorem perform_registerOutside_cases (w : World σ) (c : Ref .catalog) (name : String)
    (hooks : Table Key Value) :
    (∃ h, w.perform (.registerOutside c name hooks) = (.ok w.heap.classes.next, w.setHeap h) ∧
      w.heap.Registers ⟨w.heap.definitions.next, c, name, hooks⟩ h) ∨
    ∃ e, w.perform (.registerOutside c name hooks) = (.error e, w) := by
  rcases w.guarded_updateWith_cases (w.heap.catalogs.contains c)
    (w.heap.registerOutside c name hooks) with
    ⟨there, x, registered, done⟩ | ⟨e, failed⟩
  · obtain rfl := Heap.registerOutside_eq_ok registered
    exact .inl ⟨_, done, there, rfl, rfl⟩
  · exact .inr ⟨e, failed⟩

/-- An action registers the class that it makes, or none. -/
theorem perform_made? (w : World σ) (a : Action σ) :
    (∃ r, made? w a = some r ∧ w.heap.Registers r (w.perform a).2.heap) ∨
    made? w a = none ∧ w.heap.RegistersNone (w.perform a).2.heap := by
  cases a with
  | register c d =>
    rcases w.perform_register_cases c d with ⟨name, h, named, run, done⟩ | ⟨e, failed⟩
    · simp only [made?, run, named]
      exact .inl ⟨_, rfl, done⟩
    · simp only [made?, failed]
      exact .inr ⟨rfl, .refl _⟩
  | registerOutside c name hooks =>
    rcases w.perform_registerOutside_cases c name hooks with ⟨h, run, done⟩ | ⟨e, failed⟩
    · simp only [made?, run]
      exact .inl ⟨_, rfl, done⟩
    · simp only [made?, failed]
      exact .inr ⟨rfl, .refl _⟩
  | _ => exact .inr ⟨rfl, (perform_step w _).registersNone (by simp) (by simp)⟩

/-- The definition that an action registers in a catalog under a name. -/
def committed? (k : Ref .catalog) (name : String) (w : World σ) (a : Action σ) :
    Option (Ref .definition) :=
  match made? w a with
  | some r => if r.catalog = k ∧ r.typeName = name then some r.definition else none
  | none => none

/-- The operator hooks that a class gets when an action makes it. -/
def hooks? (c : Ref .cls) (w : World σ) (a : Action σ) : Option (Table Key Value) :=
  match made? w a with
  | some r => if w.heap.classes.next = c then some r.operators else none
  | none => none

end World

namespace Heap

/-- The definition of the class that a catalog has under a name. -/
def current? (h : Heap) (k : Ref .catalog) (name : String) : Option (Ref .definition) :=
  ((h.catalogs.get k).classes.find? name).map (fun c => (h.classes.get c).definition)

variable {h h' : Heap} {k : Ref .catalog} {name : String}

theorem Registers.current?_eq {r : Class} (done : h.Registers r h') (registered : h.Registered) :
    h'.current? k name =
      if r.catalog = k ∧ r.typeName = name then some r.definition else h.current? k name := by
  have old : ((h.catalogs.get k).classes.find? name).map (fun c => (h'.classes.get c).definition) =
      h.current? k name := by
    simp only [current?]
    refine Option.map_congr (fun c found => ?_)
    rw [done.classes, Store.get_push_of_contains (registered k name c found).1]
  simp only [current?, done.catalogs, Store.get_modify]
  by_cases hk : r.catalog = k
  · subst hk
    simp only [done.inCatalog, and_self, if_true, true_and, Table.find?_insert, beq_iff_eq]
    split
    · rw [Option.map_some, done.classes, Store.get_push_next]
    · exact old
  · simp only [hk, false_and, if_false]
    exact old

/-- Each class on the way up has for its parent the class that the catalog has under the name. -/
theorem Ascent.entries (registered : h.Registered) {c : Ref .cls} {cs : List (Ref .cls)}
    (way : h.Ascent c cs none) (bound : (h.classes.get c).catalog = k) :
    cs.IsChain (fun q p => ∃ name, (h.classDefinition q).parent = .text name ∧
      h.current? k name = some (h.classes.get p).definition) := by
  generalize hf : (none : Option Fault) = fault at way
  induction way with
  | root top => exact .singleton _
  | lost failed => cases hf
  | layer link above ih =>
    obtain ⟨name, named, hp⟩ := importClass_of_link link
    rw [bound] at hp
    have found := importClass_text.mp hp
    obtain ⟨ps, rfl⟩ := above.eq_cons
    refine .cons_cons ⟨name, named, ?_⟩ (ih (registered _ _ _ found).2 hf)
    rw [current?, found]
    rfl

end Heap

namespace World

variable {σ : Type} {w : World σ} {a : Action σ} {as : List (Action σ)} {k : Ref .catalog}
  {name : String}

theorem catalog?_of_made? {r : Class} (made : made? w a = some r) :
    a.catalog? = some r.catalog := by
  cases a with
  | register c d | registerOutside c _ _ =>
    simp only [made?, Option.ite_none_right_eq_some, Option.some.injEq] at made
    obtain ⟨-, rfl⟩ := made
    rfl
  | _ => cases made

theorem committed?_eq_none (elsewhere : a.catalog? ≠ some k) : committed? k name w a = none := by
  rw [committed?]
  cases made : made? w a with
  | none => rfl
  | some r =>
    rw [catalog?_of_made? made] at elsewhere
    exact if_neg (fun own => elsewhere (congrArg some own.1))

theorem last_eq_none (elsewhere : w.Each (fun _ a => a.catalog? ≠ some k) as) :
    w.last (committed? k name) as = none := by
  induction as generalizing w with
  | nil => rfl
  | cons a as ih => rw [last, ih elsewhere.2, committed?_eq_none elsewhere.1, Option.or_none]

/-- What is registered depends on the definition alone, and on whether it and the catalog are there. -/
theorem committed?_register_congr {u : World σ} (definitions : u.heap.definitions = w.heap.definitions)
    (catalogs : ∀ c, u.heap.catalogs.contains c = w.heap.catalogs.contains c) (c : Ref .catalog)
    (d : Ref .definition) :
    committed? k name u (.register c d) = committed? k name w (.register c d) := by
  have record := Heap.definition_congr definitions d
  have ok : (u.perform (.register c d)).1.isOk = (w.perform (.register c d)).1.isOk := by
    simp only [perform, catalogs, definitions]
    cases w.heap.catalogs.contains c && w.heap.definitions.contains d with
    | false => rfl
    | true =>
      simp only [guarded, if_true, Heap.register, record]
      cases (w.heap.definition d).typeFault? with
      | some e => rfl
      | none => cases (w.heap.definition d).name <;> rfl
  simp only [committed?, made?, ok, record]

theorem committed?_register_eq_some {c : Ref .catalog} {d d' : Ref .definition}
    (commits : committed? k name w (.register c d) = some d') :
    c = k ∧ d = d' ∧ (w.heap.definition d).name = .text name := by
  rcases w.perform_register_cases c d with ⟨s, h, named, run, -⟩ | ⟨e, failed⟩
  · simp only [committed?, made?, run, named] at commits ⊢
    change (if c = k ∧ s = name then some d else none) = some d' at commits
    simp only [Option.ite_none_right_eq_some, Option.some.injEq] at commits
    obtain ⟨⟨rfl, rfl⟩, rfl⟩ := commits
    exact ⟨rfl, rfl, rfl⟩
  · simp only [committed?, made?, failed] at commits
    cases commits

theorem current?_perform (registered : w.heap.Registered) (a : Action σ) :
    (w.perform a).2.heap.current? k name = (committed? k name w a).or (w.heap.current? k name) := by
  rcases w.perform_made? a with ⟨r, made, done⟩ | ⟨made, done⟩
  · rw [done.current?_eq registered]
    simp only [committed?, made]
    split <;> rfl
  · simp only [committed?, made, Heap.current?, done.classes, done.catalogs, Option.none_or]

/-- A catalog has under each name what was registered last under it, or else what it had before. -/
theorem current?_after_of_registered (registered : w.heap.Registered) (as : List (Action σ)) :
    (w.after as).heap.current? k name =
      (w.last (committed? k name) as).or (w.heap.current? k name) := by
  induction as generalizing w with
  | nil => rfl
  | cons a as ih =>
    rw [after_cons, ih (registered.step (perform_step w a)), current?_perform registered, last,
      Option.or_assoc]

/-- In every run, a catalog has under each name what was registered last under it. -/
theorem current?_after (client : σ) (as : List (Action σ)) (k : Ref .catalog) (name : String) :
    ((initial client).after as).heap.current? k name =
      (initial client).last (committed? k name) as := by
  have fresh : (initial client).heap.current? k name = none := by
    change ((Heap.initial.catalogs.get k).classes.find? name).map _ = none
    rw [Heap.catalog_initial]
    rfl
  rw [current?_after_of_registered Heap.registered_initial, fresh, Option.or_none]

/-- In every run, a class has the operator hooks that it got when it was made. -/
theorem operators_after (client : σ) (as : List (Action σ)) (c : Ref .cls) :
    (initial client).last (hooks? c) as =
      if ((initial client).after as).heap.classes.contains c = true then
        some (((initial client).after as).heap.classes.get c).operators
      else none := by
  induction as using List.reverseRecOn with
  | nil => rfl
  | append_singleton as a ih =>
    rw [after_concat, last_concat, ih]
    rcases ((initial client).after as).perform_made? a with ⟨r, made, done⟩ | ⟨made, done⟩
    · simp only [hooks?, made, done.classes, Store.contains_push_iff, Store.get_push]
      by_cases new : c = ((initial client).after as).heap.classes.next
      · simp [new]
      · simp [new, Ne.symm new]
    · simp only [hooks?, made, done.classes, Option.none_or]

end World

end ObjectModel
