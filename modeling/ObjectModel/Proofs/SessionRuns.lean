import ObjectModel.Proofs.Reachability
import ObjectModel.Script.Workspace

/-!
# Runs of sessions

A session comes to a result and leaves a world, and what follows goes on from there. The runs of
sessions obey the laws of the runs of programs, so that a session is followed step by step without
a word about what comes after it.
-/

namespace ObjectModel

namespace Program

variable {σ α ω : Type}

theorem run_andThen (p : Program σ α) (next : Except Fault α → Program σ ω) (w : World σ) :
    (p.andThen next).run w = (next (p.run w).1).run (p.run w).2 := by
  induction p generalizing w with
  | done a => rfl
  | fail f => rfl
  | act a rest ih => exact ih _ _

end Program

namespace Session

open World

variable {σ ω α β : Type}

/-- What a session comes to, and the world that it leaves. -/
noncomputable def run (s : Session σ ω α) (w : World σ) : Except Fault α × World σ :=
  s.lawful.choose.run w

/-- What follows a session goes on with what the session comes to. -/
theorem run_followedBy (s : Session σ ω α) (next : Except Fault α → Program σ ω) (w : World σ) :
    (s next).run w = (next (s.run w).1).run (s.run w).2 := by
  rw [s.lawful.choose_spec next, Program.run_andThen]
  rfl

/-- The run of a session is all that what follows gets to know of it. -/
theorem run_eq_iff {s : Session σ ω α} {w u : World σ} {r : Except Fault α} :
    s.run w = (r, u) ↔ ∀ next, (s next).run w = (next r).run u := by
  constructor
  · intro comes next
    rw [run_followedBy, comes]
  · intro follows
    have both (next : Except Fault α → Program σ ω) :
        (next (s.run w).1).run (s.run w).2 = (next r).run u :=
      (run_followedBy s next w).symm.trans (follows next)
    have world : (s.run w).2 = u := congrArg Prod.snd (both (fun _ => .fail .dangling))
    -- what follows can tell the results apart
    classical
    have outcome := congrArg Prod.fst
      (both (fun r' => if r' = r then .fail .exhausted else .fail .dangling))
    by_cases same : (s.run w).1 = r
    · exact Prod.ext same world
    · simp [same, Program.run] at outcome

@[simp] theorem run_pure (a : α) (w : World σ) :
    (pure a : Session σ ω α).run w = (.ok a, w) :=
  run_eq_iff.mpr (fun _ => rfl)

@[simp] theorem run_throw (f : Fault) (w : World σ) :
    (throw f : Session σ ω α).run w = (.error f, w) :=
  run_eq_iff.mpr (fun _ => rfl)

@[simp] theorem run_ask (a : Action σ) (w : World σ) :
    (ask a : Session σ ω a.Result).run w = w.perform a :=
  run_eq_iff.mpr (fun _ => rfl)

@[simp] theorem run_asking (a : Action σ) (f : a.Result → α) (w : World σ) :
    (asking a f : Session σ ω α).run w = ((w.perform a).1.map f, (w.perform a).2) :=
  run_eq_iff.mpr (fun _ => rfl)

theorem run_bind (s : Session σ ω α) (k : α → Session σ ω β) (w : World σ) :
    (s >>= k).run w =
      match s.run w with
      | (.ok a, w') => (k a).run w'
      | (.error f, w') => (.error f, w') := by
  refine run_eq_iff.mpr (fun next => ?_)
  change (s _).run w = _
  rw [run_followedBy]
  cases s.run w with
  | mk r w' =>
    cases r with
    | ok a => exact run_followedBy (k a) next w'
    | error f => rfl

theorem run_bind_of_ok {s : Session σ ω α} {k : α → Session σ ω β} {w w' : World σ} {a : α}
    (h : s.run w = (.ok a, w')) : (s >>= k).run w = (k a).run w' := by
  rw [run_bind, h]

theorem run_bind_of_error {s : Session σ ω α} {k : α → Session σ ω β} {w w' : World σ} {f : Fault}
    (h : s.run w = (.error f, w')) : (s >>= k).run w = (.error f, w') := by
  rw [run_bind, h]

theorem run_tryCatch (s : Session σ ω α) (handler : Fault → Session σ ω α) (w : World σ) :
    (tryCatch s handler).run w =
      match s.run w with
      | (.ok a, w') => (.ok a, w')
      | (.error f, w') => (handler f).run w' := by
  refine run_eq_iff.mpr (fun next => ?_)
  change (s _).run w = _
  rw [run_followedBy]
  cases s.run w with
  | mk r w' =>
    cases r with
    | ok a => rfl
    | error f => exact run_followedBy (handler f) next w'

theorem run_tryCatch_of_ok {s : Session σ ω α} {handler : Fault → Session σ ω α} {w w' : World σ}
    {a : α} (h : s.run w = (.ok a, w')) : (tryCatch s handler).run w = (.ok a, w') := by
  rw [run_tryCatch, h]

theorem run_tryCatch_of_error {s : Session σ ω α} {handler : Fault → Session σ ω α}
    {w w' : World σ} {f : Fault} (h : s.run w = (.error f, w')) :
    (tryCatch s handler).run w = (handler f).run w' := by
  rw [run_tryCatch, h]

/-- A session that nothing follows is a program with the same run. -/
theorem run_toProgram (s : Session σ α α) (w : World σ) : s.toProgram.run w = s.run w := by
  rw [toProgram, run_followedBy, Program.run_ofExcept]

end Session

namespace Script

variable {α β : Type} (w : World Workspace)

@[simp] theorem run_viewing (f : Workspace → α) :
    (viewing f : Prog α).run w = (.ok (f w.client), w) :=
  Session.run_asking _ _ _

@[simp] theorem run_seeing (f : Heap → α) : (seeing f : Prog α).run w = (.ok (f w.heap), w) :=
  Session.run_asking _ _ _

theorem run_look : (look : Prog Heap).run w = (.ok w.heap, w) := Session.run_ask _ w

@[simp] theorem run_poke (f : Workspace → Workspace) :
    (poke f).run w = (.ok (), { w with client := f w.client }) :=
  Session.run_ask _ _

end Script

end ObjectModel
