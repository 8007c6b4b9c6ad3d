import ObjectModel.World

/-!
# Programs

A program is a tree of actions whose branches are what the actions give. Client code of any kind,
run inside a constructor or an operator hook, is a program too, so what every action keeps is kept
by every program, at all of its intermediate worlds. The operations of the model are written for
any monad in which the actions can be done; programs are the plainest of them.
-/

namespace ObjectModel

/-- A monad in which the actions of the model can be done. -/
class Acting (σ : outParam Type) (m : Type → Type) extends Monad m, MonadExceptOf Fault m where
  ask : (a : Action σ) → m a.Result

export Acting (ask)

inductive Program (σ : Type) (α : Type) : Type where
  | done (a : α)
  | fail (f : Fault)
  | act (a : Action σ) (next : Except Fault a.Result → Program σ α)

namespace Program

variable {σ α β : Type}

def bind : Program σ α → (α → Program σ β) → Program σ β
  | .done a, k => k a
  | .fail f, _ => .fail f
  | .act a next, k => .act a (fun r => (next r).bind k)

/-- Go on with `handler` if `p` fails. -/
def handle : Program σ α → (Fault → Program σ α) → Program σ α
  | .done a, _ => .done a
  | .fail f, handler => handler f
  | .act a next, handler => .act a (fun r => (next r).handle handler)

def ofExcept : Except Fault α → Program σ α
  | .ok a => .done a
  | .error f => .fail f

instance : Acting σ (Program σ) where
  pure := .done
  bind := bind
  throw := .fail
  tryCatch := handle
  /- An action that fails makes the program fail. -/
  ask a := .act a ofExcept

/-- Run a program to its end. What was done before a fault stays done. -/
def run : Program σ α → World σ → Except Fault α × World σ
  | .done a, w => (.ok a, w)
  | .fail f, w => (.error f, w)
  | .act a next, w =>
    let (r, w') := w.perform a
    (next r).run w'

end Program

section

variable {σ : Type} {m : Type → Type} [Acting σ m] {α : Type}

/-- See the heap as it is now. -/
def look : m Heap := ask .look

/-- Go on with a result, or fail with its fault. -/
def settle : Except Fault α → m α
  | .ok a => pure a
  | .error f => throw f

end

end ObjectModel
