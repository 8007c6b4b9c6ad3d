import ObjectModel.Proofs.CatalogQueries
import ObjectModel.Proofs.SessionRuns

/-!
# Filling a dictionary

A text under whose code a dictionary holds nothing is a new key. To look for it comes to nothing,
and to give it a value adds an entry behind the others, wherever the entry finds its place.
-/

namespace ObjectModel

theorem Store.modify_eq_set {role : Role} {α : Type} [Inhabited α] (s : Store role α) (x : Ref role)
    (f : α → α) : s.modify x f = s.set x (f (s.get x)) := by
  refine Store.ext_get (by simp) (fun y _ => ?_)
  rw [get_modify, get_set]
  by_cases same : x = y
  · rw [same]
  · simp [same]

namespace Script

namespace Dict

variable {d : Dict} {P : Entry → Prop}

theorem all_iff : d.All P ↔ ∀ e ∈ d.entries, P e := by
  simp [All, entries]

@[simp] theorem entries_append (d : Dict) (e : Entry) :
    (d.append e).entries = d.entries ++ [e] := by
  simp [append, entries]

theorem entries_foldl_append (es : List Entry) (d : Dict) :
    (es.foldl append d).entries = d.entries ++ es := by
  induction es generalizing d with
  | nil => simp
  | cons e es ih =>
    rw [List.foldl_cons, ih, entries_append, List.append_assoc, List.singleton_append]

@[simp] theorem entries_grown (d : Dict) (isText : Bool) :
    (d.grown isText).entries = d.entries := by
  rw [grown, entries_foldl_append]
  rfl

@[simp] theorem entries_readied (d : Dict) (key : Value) : (d.readied key).entries = d.entries := by
  unfold readied
  split
  · rfl
  · split
    · rfl
    · exact entries_grown _ _
  · rfl

@[simp] theorem entries_push (d : Dict) (e : Entry) : (d.push e).entries = d.entries ++ [e] := by
  simp only [push]
  split <;> simp

end Dict

/-- The world in which a dictionary has become another. -/
def withDict (w : World Workspace) (r : Ref .dict) (d : Dict) : World Workspace :=
  { w with client := { w.client with dicts := w.client.dicts.set r d } }

/-- The world in which one more dictionary was made. -/
def withNewDict (w : World Workspace) (d : Dict) : World Workspace :=
  { w with client := { w.client with dicts := w.client.dicts.push d } }

theorem run_newDict (d : Dict) (w : World Workspace) :
    (newDict d).run w = (.ok w.client.dicts.next, withNewDict w d) := by
  rw [newDict, Session.run_bind_of_ok (run_viewing w _), Session.run_bind_of_ok (run_poke w _)]
  exact Session.run_pure _ _

theorem run_changeDict (w : World Workspace) (r : Ref .dict) (f : Dict → Dict) :
    (changeDict r f).run w = (.ok (), withDict w r (f (w.client.dicts.get r))) := by
  rw [withDict, ← Store.modify_eq_set]
  exact run_poke w _

namespace Machine

variable {w : World Workspace} {r : Ref .dict} {key : String} {n : Nat}

/-- No entry of a dictionary has the code of a text. -/
def IsNew (w : World Workspace) (r : Ref .dict) (key : String) : Prop :=
  ∀ e ∈ (w.client.dicts.get r).entries, e.code ≠ KeyCode.ofText key

theorem isNew_next (w : World Workspace) (key : String) :
    IsNew (withNewDict w .empty) w.client.dicts.next key := by
  intro e there
  rw [withNewDict, Store.get_push_next] at there
  cases there

theorem run_findPlace_of_new (new : IsNew w r key) (m : Machine) :
    (m.findPlace (.own r) (KeyCode.ofText key) (.text key)).run w = (.ok none, w) :=
  Session.run_eq_iff.mpr (m.run_findPlace_of_other_code (Dict.all_iff.mpr new))

theorem run_containsKey_of_new (new : IsNew w r key) :
    ((ofDepth (n + 1)).containsKey (.own r) (.text key)).run w = (.ok false, w) := by
  refine (Session.run_bind_of_ok (Session.run_pure _ w)).trans ?_
  exact (Session.run_bind_of_ok (run_findPlace_of_new new _)).trans (Session.run_pure _ w)

/-- A new key comes behind the others. -/
theorem exists_run_setItem_of_new (made : w.client.dicts.contains r = true) (new : IsNew w r key)
    (v : Value) : ∃ d, ((ofDepth (n + 1)).setItem (.own r) (.text key) v).run w =
        (.ok (), withDict w r d) ∧
      d.entries = (w.client.dicts.get r).entries ++ [⟨KeyCode.ofText key, .text key, v⟩] := by
  let old := w.client.dicts.get r
  let readied := withDict w r (old.readied (.text key))
  have held : readied.client.dicts.get r = old.readied (.text key) := Store.get_set_self made _
  have new' : IsNew readied r key := by
    intro e there
    rw [held, Dict.entries_readied] at there
    exact new e there
  let pushed := (old.readied (.text key)).push ⟨KeyCode.ofText key, .text key, v⟩
  refine ⟨pushed, ?_, by simp [pushed, old]⟩
  have coded : ((ofDepth (n + 1)).code (.text key)).run w = (.ok (KeyCode.ofText key), w) :=
    Session.run_pure _ w
  rw [setItem, Session.run_bind_of_ok coded]
  refine (Session.run_bind_of_ok (run_changeDict w r _)).trans ?_
  refine (Session.run_bind_of_ok (run_findPlace_of_new new' _)).trans ?_
  refine (run_changeDict readied r _).trans ?_
  rw [held]
  simp only [readied, withDict, Store.set_set, pushed]

end Machine

end Script

end ObjectModel
