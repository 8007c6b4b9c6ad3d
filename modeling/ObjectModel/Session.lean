import ObjectModel.Program

/-!
# Sessions

A session is a program that is told what to do with its result. Sessions are put together in
constant time, however deep they are nested, and a session that is followed by nothing is a
program. What follows a session has no part in what the session does: each carries the proof that
it is some program, done before what follows. All that programs keep is therefore kept by
sessions.
-/

namespace ObjectModel

namespace Program

variable {σ α β ω : Type}

/-- Go on with whatever a program comes to, be it a result or a fault. -/
def andThen : Program σ α → (Except Fault α → Program σ ω) → Program σ ω
  | .done a, next => next (.ok a)
  | .fail f, next => next (.error f)
  | .act a rest, next => .act a (fun r => (rest r).andThen next)

theorem andThen_bind (p : Program σ α) (f : α → Program σ β)
    (next : Except Fault β → Program σ ω) :
    (p.bind f).andThen next = p.andThen (fun
      | .ok a => (f a).andThen next
      | .error e => next (.error e)) := by
  induction p with
  | done a => rfl
  | fail e => rfl
  | act a rest ih => exact congrArg (act a) (funext ih)

theorem andThen_handle (p : Program σ α) (handler : Fault → Program σ α)
    (next : Except Fault α → Program σ ω) :
    (p.handle handler).andThen next = p.andThen (fun
      | .ok a => next (.ok a)
      | .error e => (handler e).andThen next) := by
  induction p with
  | done a => rfl
  | fail e => rfl
  | act a rest ih => exact congrArg (act a) (funext ih)

end Program

/-- A program with a result of type `α`, as part of one whose result has type `ω`. -/
structure Session (σ ω α : Type) where
  followedBy : (Except Fault α → Program σ ω) → Program σ ω
  /-- What follows has no part in it. -/
  lawful : ∃ p : Program σ α, ∀ next, followedBy next = p.andThen next

namespace Session

variable {σ ω α β : Type}

instance : CoeFun (Session σ ω α) (fun _ => (Except Fault α → Program σ ω) → Program σ ω) :=
  ⟨followedBy⟩

def bind (s : Session σ ω α) (f : α → Session σ ω β) : Session σ ω β where
  followedBy next := s (fun
    | .ok a => f a next
    | .error e => next (.error e))
  lawful := by
    obtain ⟨p, hp⟩ := s.lawful
    refine ⟨p.bind (fun a => (f a).lawful.choose), fun next => ?_⟩
    rw [hp, Program.andThen_bind]
    congr 1
    funext r
    cases r with
    | ok a => exact (f a).lawful.choose_spec next
    | error e => rfl

/-- Go on with `handler` if `s` fails. -/
def handle (s : Session σ ω α) (handler : Fault → Session σ ω α) : Session σ ω α where
  followedBy next := s (fun
    | .ok a => next (.ok a)
    | .error e => handler e next)
  lawful := by
    obtain ⟨p, hp⟩ := s.lawful
    refine ⟨p.handle (fun e => (handler e).lawful.choose), fun next => ?_⟩
    rw [hp, Program.andThen_handle]
    congr 1
    funext r
    cases r with
    | ok a => rfl
    | error e => exact (handler e).lawful.choose_spec next

/-- Do an action and take something of what it gives, without holding on to the rest. -/
def asking (a : Action σ) (f : a.Result → α) : Session σ ω α where
  followedBy next := .act a (fun r => next (r.map f))
  lawful := by
    refine ⟨.act a (fun r => Program.ofExcept (r.map f)), fun next => ?_⟩
    refine congrArg (Program.act a) (funext fun r => ?_)
    cases r <;> rfl

instance : Acting σ (Session σ ω) where
  pure a := ⟨fun next => next (.ok a), .done a, fun _ => rfl⟩
  bind := bind
  throw e := ⟨fun next => next (.error e), .fail e, fun _ => rfl⟩
  tryCatch := handle
  ask a := ⟨fun next => .act a next, .act a Program.ofExcept, fun next => by
    refine congrArg (Program.act a) (funext fun r => ?_)
    cases r <;> rfl⟩

/-- The program that a session is when nothing follows. -/
def toProgram (s : Session σ α α) : Program σ α := s Program.ofExcept

end Session

end ObjectModel
