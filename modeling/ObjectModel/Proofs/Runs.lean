import Mathlib.Data.List.Induction
import ObjectModel.Proofs.HeapSteps

/-!
# Runs and their histories

A run is a list of actions that are done one after the other, whatever they give. Every program does
some run. An event is something that an action may be, or may bring about, in the world in which it
is done; of the events of a run the last one counts. A run is orderly if it registers a definition
only when no builder takes declarations for it any more.
-/

namespace ObjectModel

namespace Heap

/-- The class body of a definition is closed: all builders that have it are finalized. -/
def Closed (h : Heap) (d : Ref .definition) : Prop :=
  ∀ b, h.builders.contains b = true → h.builderDefinition b = d → h.finalized b = true

instance (h : Heap) (d : Ref .definition) : Decidable (h.Closed d) :=
  decidable_of_iff
    (∀ i, i < h.builders.size → h.builderDefinition ⟨i⟩ = d → h.finalized ⟨i⟩ = true)
    ⟨fun all b hb => all b.index (Store.contains_iff.mp hb),
      fun closed i hi => closed ⟨i⟩ (Store.contains_iff.mpr hi)⟩

end Heap

/-- A definition may be registered when its class body is closed. -/
def Action.InOrder {σ : Type} (h : Heap) : Action σ → Prop
  | .register _ d => h.Closed d
  | _ => True

namespace World

variable {σ β : Type}

/-- All actions of a run keep to `P`, each in the heap that it meets. -/
def Each (P : Heap → Action σ → Prop) (w : World σ) : List (Action σ) → Prop
  | [] => True
  | a :: as => P w.heap a ∧ (w.perform a).2.Each P as

theorem each_append {P : Heap → Action σ → Prop} {w : World σ} {as bs : List (Action σ)} :
    w.Each P (as ++ bs) ↔ w.Each P as ∧ (w.after as).Each P bs := by
  induction as generalizing w with
  | nil => simp [Each]
  | cons a as ih => simp [Each, ih, and_assoc]

theorem Each.mono {P Q : Heap → Action σ → Prop} {w : World σ} {as : List (Action σ)}
    (each : w.Each P as) (weaker : ∀ h a, P h a → Q h a) : w.Each Q as := by
  induction as generalizing w with
  | nil => trivial
  | cons a as ih => exact ⟨weaker _ _ each.1, ih each.2⟩

/-- The actions are in order. -/
def Orderly (w : World σ) (as : List (Action σ)) : Prop := w.Each (fun h a => a.InOrder h) as

theorem orderly_append {w : World σ} {as bs : List (Action σ)} :
    w.Orderly (as ++ bs) ↔ w.Orderly as ∧ (w.after as).Orderly bs :=
  each_append

theorem orderly_concat {w : World σ} {as : List (Action σ)} {a : Action σ} :
    w.Orderly (as ++ [a]) ↔ w.Orderly as ∧ a.InOrder (w.after as).heap := by
  rw [orderly_append]
  simp [Orderly, Each]

/-- A property of heaps that holds at the start and that every step in order keeps. -/
theorem Orderly.invariant {P : Heap → Prop} (start : P .initial)
    (step : ∀ (a : Action σ) (h h' : Heap), h.Step a h' → a.InOrder h → P h → P h') {client : σ}
    {as : List (Action σ)} (orderly : (initial client).Orderly as) :
    P ((initial client).after as).heap := by
  induction as using List.reverseRecOn with
  | nil => exact start
  | append_singleton as a ih =>
    obtain ⟨before, inOrder⟩ := orderly_concat.mp orderly
    rw [after_concat]
    exact step a _ _ (perform_step _ a) inOrder (ih before)

/-- The last event of a run. -/
def last (event : World σ → Action σ → Option β) (w : World σ) : List (Action σ) → Option β
  | [] => none
  | a :: as => (last event (w.perform a).2 as).or (event w a)

theorem last_append (event : World σ → Action σ → Option β) (w : World σ)
    (as bs : List (Action σ)) :
    w.last event (as ++ bs) = ((w.after as).last event bs).or (w.last event as) := by
  induction as generalizing w with
  | nil => simp [last]
  | cons a as ih => simp [last, ih, Option.or_assoc]

theorem last_concat (event : World σ → Action σ → Option β) (w : World σ) (as : List (Action σ))
    (a : Action σ) :
    w.last event (as ++ [a]) = (event (w.after as) a).or (w.last event as) := by
  rw [last_append]
  simp [last]

/-- The events of a run, in their order. -/
def history (event : World σ → Action σ → Option β) (w : World σ) : List (Action σ) → List β
  | [] => []
  | a :: as => (event w a).toList ++ history event (w.perform a).2 as

theorem history_append (event : World σ → Action σ → Option β) (w : World σ)
    (as bs : List (Action σ)) :
    w.history event (as ++ bs) = w.history event as ++ (w.after as).history event bs := by
  induction as generalizing w with
  | nil => simp [history]
  | cons a as ih => simp [history, ih]

theorem history_concat (event : World σ → Action σ → Option β) (w : World σ)
    (as : List (Action σ)) (a : Action σ) :
    w.history event (as ++ [a]) = w.history event as ++ (event (w.after as) a).toList := by
  rw [history_append]
  simp [history]

end World

namespace Program

open World

variable {σ α β : Type}

/-- The actions that a program does. -/
def trace : Program σ α → World σ → List (Action σ)
  | .done _, _ => []
  | .fail _, _ => []
  | .act a next, w => a :: (next (w.perform a).1).trace (w.perform a).2

theorem after_trace (p : Program σ α) (w : World σ) : w.after (p.trace w) = (p.run w).2 := by
  induction p generalizing w with
  | done a => rfl
  | fail f => rfl
  | act a next ih => exact ih _ _

theorem trace_bind (p : Program σ α) (k : α → Program σ β) (w : World σ) :
    (p >>= k).trace w = p.trace w ++
      match p.run w with
      | (.ok a, w') => (k a).trace w'
      | (.error _, _) => [] := by
  induction p generalizing w with
  | done a => rfl
  | fail f => rfl
  | act a next ih => exact congrArg (a :: ·) (ih _ _)

theorem trace_bind_pure (p : Program σ α) (b : β) (w : World σ) :
    (p >>= fun _ => (pure b : Program σ β)).trace w = p.trace w := by
  rw [trace_bind]
  cases p.run w with
  | mk r u => cases r <;> exact List.append_nil _

/-- What holds of all actions of a program and of what follows it holds of all actions of both. -/
theorem each_trace_bind {P : Heap → Action σ → Prop} {p : Program σ α} {k : α → Program σ β}
    {w : World σ} (first : w.Each P (p.trace w))
    (next : ∀ a w', p.run w = (.ok a, w') → w'.Each P ((k a).trace w')) :
    w.Each P ((p >>= k).trace w) := by
  rw [trace_bind, each_append, after_trace]
  refine ⟨first, ?_⟩
  cases run : p.run w with
  | mk r w' =>
    cases r with
    | ok a => exact next a w' run
    | error f => trivial

/-- What holds of all actions of a program and of its handler holds of all actions of both. -/
theorem each_trace_tryCatch {P : Heap → Action σ → Prop} {p : Program σ α}
    {handler : Fault → Program σ α} {w : World σ} (first : w.Each P (p.trace w))
    (next : ∀ e w', p.run w = (.error e, w') → w'.Each P ((handler e).trace w')) :
    w.Each P ((tryCatch p handler).trace w) := by
  induction p generalizing w with
  | done a => trivial
  | fail e => exact next e w rfl
  | act a rest ih => exact ⟨first.1, ih _ first.2 next⟩

theorem trace_ask (a : Action σ) (w : World σ) :
    (ask a : Program σ a.Result).trace w = [a] := by
  change a :: (ofExcept (w.perform a).1).trace (w.perform a).2 = _
  cases (w.perform a).1 <;> rfl

theorem trace_look_bind (k : Heap → Program σ β) (w : World σ) :
    (look >>= k).trace w = .look :: (k w.heap).trace w := rfl

theorem trace_settle (r : Except Fault α) (w : World σ) :
    (settle r : Program σ α).trace w = [] := by
  cases r <;> rfl

theorem each_trace_ask {P : Heap → Action σ → Prop} {a : Action σ} {w : World σ} (h : P w.heap a) :
    w.Each P ((ask a : Program σ a.Result).trace w) := by
  rw [trace_ask]
  exact ⟨h, trivial⟩

theorem each_trace_settle {P : Heap → Action σ → Prop} (r : Except Fault α) (w : World σ) :
    w.Each P ((settle r : Program σ α).trace w) := by
  rw [trace_settle]
  trivial

end Program

end ObjectModel
