import ObjectModel.Program

/-!
# Reachable worlds

A world is reachable if some actions lead to it from a fresh start. Since a world changes by its
actions only, the reachable worlds are exactly those that some program passes through, be it at
its end or in the middle of a call. What every action keeps therefore holds at all moments of all
programs, and a constructor or a hook that is running is one of these moments.
-/

namespace ObjectModel

namespace World

variable {σ : Type} {w w' w'' : World σ}

/-- One world comes after another if some actions lead to it. -/
inductive Reaches : World σ → World σ → Prop where
  | refl (w : World σ) : Reaches w w
  | step {w w' : World σ} (before : Reaches w w') (a : Action σ) : Reaches w (w'.perform a).2

theorem Reaches.trans (h : Reaches w w') (h' : Reaches w' w'') : Reaches w w'' := by
  induction h' with
  | refl => exact h
  | step _ a ih => exact ih.step a

theorem Reaches.perform (w : World σ) (a : Action σ) : Reaches w (w.perform a).2 :=
  (Reaches.refl w).step a

/-- Do some actions one after the other, whatever they give. -/
def after (w : World σ) (as : List (Action σ)) : World σ := as.foldl (fun w a => (w.perform a).2) w

@[simp] theorem after_nil (w : World σ) : w.after [] = w := rfl

@[simp] theorem after_cons (w : World σ) (a : Action σ) (as : List (Action σ)) :
    w.after (a :: as) = (w.perform a).2.after as := rfl

theorem after_append (w : World σ) (as bs : List (Action σ)) :
    w.after (as ++ bs) = (w.after as).after bs := by
  simp [after]

@[simp] theorem after_concat (w : World σ) (as : List (Action σ)) (a : Action σ) :
    w.after (as ++ [a]) = ((w.after as).perform a).2 := by
  simp [after]

theorem reaches_after (w : World σ) (as : List (Action σ)) : Reaches w (w.after as) := by
  induction as generalizing w with
  | nil => exact .refl w
  | cons a as ih => exact (Reaches.perform w a).trans (ih _)

theorem exists_actions_of_reaches (h : Reaches w w') : ∃ as, w' = w.after as := by
  induction h with
  | refl => exact ⟨[], rfl⟩
  | step _ a ih =>
    obtain ⟨as, rfl⟩ := ih
    exact ⟨as ++ [a], by simp⟩

/-- A world that some actions lead to from a fresh start. -/
def Reachable (w : World σ) : Prop := ∃ client, Reaches (.initial client) w

theorem reachable_after (client : σ) (as : List (Action σ)) :
    ((initial client).after as).Reachable :=
  ⟨client, reaches_after _ _⟩

theorem Reachable.after (h : Reachable w) (h' : Reaches w w') : Reachable w' := by
  obtain ⟨client, hw⟩ := h
  exact ⟨client, hw.trans h'⟩

/-- A property of heaps that holds at the start and that every action keeps. -/
theorem Reachable.heap_induction {P : Heap → Prop} (start : P .initial)
    (step : ∀ (w : World σ) (a : Action σ), P w.heap → P (w.perform a).2.heap)
    (h : Reachable w) : P w.heap := by
  obtain ⟨client, hw⟩ := h
  induction hw with
  | refl => exact start
  | step _ a ih => exact step _ a ih

end World

namespace Program

open World

variable {σ α β : Type}

@[simp] theorem run_pure (a : α) (w : World σ) :
    (pure a : Program σ α).run w = (.ok a, w) := rfl

@[simp] theorem run_throw (f : Fault) (w : World σ) :
    (throw f : Program σ α).run w = (.error f, w) := rfl

@[simp] theorem run_ofExcept (r : Except Fault α) (w : World σ) :
    (ofExcept r : Program σ α).run w = (r, w) := by
  cases r <;> rfl

@[simp] theorem run_ask (a : Action σ) (w : World σ) :
    (ask a : Program σ a.Result).run w = w.perform a := by
  change (ofExcept (w.perform a).1).run (w.perform a).2 = _
  simp

@[simp] theorem run_settle (r : Except Fault α) (w : World σ) :
    (settle r : Program σ α).run w = (r, w) := by
  cases r <;> rfl

theorem run_bind (p : Program σ α) (k : α → Program σ β) (w : World σ) :
    (p >>= k).run w =
      match p.run w with
      | (.ok a, w') => (k a).run w'
      | (.error f, w') => (.error f, w') := by
  induction p generalizing w with
  | done a => rfl
  | fail f => rfl
  | act a next ih => exact ih _ _

theorem run_bind_of_ok {p : Program σ α} {k : α → Program σ β} {w w' : World σ} {a : α}
    (h : p.run w = (.ok a, w')) : (p >>= k).run w = (k a).run w' := by
  rw [run_bind, h]

theorem run_bind_of_error {p : Program σ α} {k : α → Program σ β} {w w' : World σ} {f : Fault}
    (h : p.run w = (.error f, w')) : (p >>= k).run w = (.error f, w') := by
  rw [run_bind, h]

theorem run_bind_assoc {γ : Type} (p : Program σ α) (k : α → Program σ β) (l : β → Program σ γ)
    (w : World σ) : ((p >>= k) >>= l).run w = (p >>= fun a => k a >>= l).run w := by
  induction p generalizing w with
  | done a => rfl
  | fail f => rfl
  | act a next ih => exact ih _ _

@[simp] theorem run_look_bind (k : Heap → Program σ β) (w : World σ) :
    (look >>= k).run w = (k w.heap).run w := rfl

theorem run_tryCatch (p : Program σ α) (handler : Fault → Program σ α) (w : World σ) :
    (tryCatch p handler).run w =
      match p.run w with
      | (.ok a, w') => (.ok a, w')
      | (.error f, w') => (handler f).run w' := by
  induction p generalizing w with
  | done a => rfl
  | fail f => rfl
  | act a next ih => exact ih _ _

/-- The worlds that a program passes through, its first and its last among them. -/
inductive Visits : Program σ α → World σ → World σ → Prop where
  | here (p : Program σ α) (w : World σ) : Visits p w w
  | later {a : Action σ} {next : Except Fault a.Result → Program σ α} {w w' : World σ}
      (rest : Visits (next (w.perform a).1) (w.perform a).2 w') : Visits (.act a next) w w'

theorem Visits.reaches {p : Program σ α} {w w' : World σ} (h : p.Visits w w') :
    Reaches w w' := by
  induction h with
  | here => exact .refl _
  | later _ ih => exact (Reaches.perform _ _).trans ih

theorem visits_run (p : Program σ α) (w : World σ) : p.Visits w (p.run w).2 := by
  induction p generalizing w with
  | done a => exact .here _ w
  | fail f => exact .here _ w
  | act a next ih => exact .later (ih _ _)

theorem run_reaches (p : Program σ α) (w : World σ) : Reaches w (p.run w).2 :=
  (visits_run p w).reaches

/-- What a program passes through is passed through whatever comes after it. -/
theorem Visits.bind {p : Program σ α} {w w' : World σ} (h : p.Visits w w')
    (k : α → Program σ β) : (p >>= k).Visits w w' := by
  induction h with
  | here => exact .here _ _
  | later _ ih => exact .later ih

/-- Do some actions one after the other, whatever they give. -/
def ofActions : List (Action σ) → Program σ Unit
  | [] => .done ()
  | a :: as => .act a (fun _ => ofActions as)

theorem run_ofActions (as : List (Action σ)) (w : World σ) :
    ((ofActions as).run w).2 = w.after as := by
  induction as generalizing w with
  | nil => rfl
  | cons a as ih => exact ih _

/-- Three classes on top of each other, an instance of the lowest, and a field in its own layer. Only
the root declares a public method, and only the lowest class has a private one. -/
def threeLayers : Program Unit Unit :=
  let catalog := Heap.defaultCatalog
  .ofActions [
    .openBuilder catalog (.text "Base"),
    .addMembers ⟨0⟩ .publics (.ofList [(.text "greet", .function ⟨0⟩)]),
    .addMembers ⟨0⟩ .statics (.ofList [(.text "count", .int 0)]),
    .register catalog ⟨0⟩,
    .openBuilder catalog (.text "Middle"),
    .setParent ⟨1⟩ (.text "Base"),
    .register catalog ⟨1⟩,
    .openBuilder catalog (.text "Derived"),
    .setParent ⟨2⟩ (.text "Middle"),
    .addMembers ⟨2⟩ .privates (.ofList [(.text "secret", .function ⟨1⟩)]),
    .register catalog ⟨2⟩,
    .newLayer ⟨0⟩ none,
    .newLayer ⟨1⟩ (some ⟨0⟩),
    .newLayer ⟨2⟩ (some ⟨1⟩),
    .writePrivate ⟨2⟩ "field" (.int 1)]

/-- The world in which that instance has been made. -/
def threeLayersWorld : World Unit := (threeLayers.run (.initial ())).2

theorem reachable_threeLayersWorld : threeLayersWorld.Reachable := ⟨(), run_reaches _ _⟩

end Program

/-- The reachable worlds are those that some program passes through from a fresh start. -/
theorem World.reachable_iff_visited {σ : Type} {w : World σ} :
    w.Reachable ↔
      ∃ (α : Type) (client : σ) (p : Program σ α), p.Visits (.initial client) w := by
  constructor
  · rintro ⟨client, h⟩
    obtain ⟨as, rfl⟩ := World.exists_actions_of_reaches h
    refine ⟨Unit, client, .ofActions as, ?_⟩
    rw [← Program.run_ofActions]
    exact Program.visits_run _ _
  · rintro ⟨α, client, p, h⟩
    exact ⟨client, h.reaches⟩

end ObjectModel
