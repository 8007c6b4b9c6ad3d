import ObjectModel.Proofs.SessionRuns
import ObjectModel.Script.Evaluation

/-!
# Texts of plain data

How plain data is shown, and what the types of values are called. Nobody is asked for that, and the
world stays as it is.
-/

namespace ObjectModel.Script

/-- Nothing, a truth value, an integer or a text. -/
inductive IsPlain : Value → Prop
  | null : IsPlain .null
  | bool (b : Bool) : IsPlain (.bool b)
  | int (n : Int) : IsPlain (.int n)
  | text (s : String) : IsPlain (.text s)

theorem IsPlain.isSimple {v : Value} (plain : IsPlain v) : isSimple v = true := by
  cases plain <;> rfl

/-- The text of plain data inside a list. An integer with too many digits has none. -/
def listedText : Value → Except Fault String
  | .null => .ok "None"
  | .bool b => .ok (Settings.flag b)
  | .int n => if Text.isTooLong n then .error (.plain .valueError) else .ok (toString n)
  | .text s => .ok (Text.quoted s)
  | _ => .error .wrongType

namespace Machine

variable {m : Machine} {w : World Workspace} {v : Value} {name : String}

theorem run_askHook?_of_none (noHook : w.heap.hookOf? v name = none) (args : List Value) :
    (m.askHook? v name args).run w = (.ok none, w) := by
  have asked : (hasHook v name).run w = (.ok false, w) := by rw [hasHook, run_seeing, noHook]; rfl
  rw [askHook?, Session.run_bind_of_ok asked]
  exact Session.run_pure _ _

theorem run_repr (plain : IsPlain v) (n : Nat) (w : World Workspace) :
    ((ofDepth (n + 1)).repr v).run w = (listedText v, w) := by
  have noHook : w.heap.hookOf? v "__repr__" = none := by cases plain <;> rfl
  have byItself : ((ofDepth n).plainRepr v).run w = (listedText v, w) := by
    cases plain with
    | int k =>
      change (intText k).run w = _
      rw [intText, listedText]
      split
      · exact Session.run_throw _ _
      · exact Session.run_pure _ _
    | null | bool b | text s => exact Session.run_pure _ _
  exact (Session.run_bind_of_ok (run_askHook?_of_none noHook [])).trans byItself

/-- The name of a type depends on the heap, the iterators and the exceptions alone. -/
theorem exists_run_typeName (v : Value) (w : World Workspace) :
    ∃ s, ∀ u : World Workspace, u.heap = w.heap → u.client.iterators = w.client.iterators →
      u.client.exceptions = w.client.exceptions → (typeName v).run u = (.ok s, u) := by
  have seen {α : Type} {u : World Workspace} (same : u.heap = w.heap) (f : Heap → α) :
      (seeing f : Prog α).run u = (.ok (f w.heap), u) := by rw [run_seeing, same]
  cases v with
  | iterator r =>
    refine ⟨cursorTypeName (w.client.iterators.get r), fun u _ iterators _ => ?_⟩
    rw [← iterators]
    exact run_viewing u _
  | exception r =>
    refine ⟨(w.client.exceptions.get r).kind.name, fun u _ _ exceptions => ?_⟩
    rw [← exceptions]
    exact run_viewing u _
  | declaration _ | facade _ | state _ => exact ⟨_, fun u heap _ _ => seen heap _⟩
  | _ => exact ⟨_, fun u _ _ _ => Session.run_pure _ u⟩

end Machine

end ObjectModel.Script
