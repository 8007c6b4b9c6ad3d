import ObjectModel.Proofs.Reachability

/-!
# Operations from outside

What code outside of an instance can do without calling anything: read, write, delete and test
attributes of facades, read and write attributes of class objects, and ask a facade for its parent
layer, its layers and its definition. Each of these is a program, and what a sequence of them
shows is what each gives or fails with, and what it logs.
-/

namespace ObjectModel

/-- What an operation from outside gives. -/
inductive Seen where
  | member (r : Reading)
  /-- An operator hook, with the facade that takes it. -/
  | hook (receiver : Ref .facade) (name : String)
  | truth (b : Bool)
  | facades (fs : List (Ref .facade))
  | done
  deriving DecidableEq

def Seen.value (v : Value) : Seen := .member (.value v)

inductive OutsideOp where
  | read (f : Ref .facade) (key : String)
  | write (f : Ref .facade) (key : String) (v : Value)
  | delete (f : Ref .facade) (key : String)
  | has (f : Ref .facade) (key : String)
  | readClass (c : Ref .cls) (key : String)
  | writeClass (c : Ref .cls) (key : String) (v : Value)
  | base (f : Ref .facade)
  | layers (f : Ref .facade)
  | definitionOf (f : Ref .facade)

namespace OutsideOp

variable {σ : Type}

/-- Read an attribute of a facade. Special names are answered by the operator hooks. What a facade has
from its type alone is left aside. -/
def readFacade (f : Ref .facade) (key : String) : Program σ Seen := do
  let h ← look
  if isSpecial key then
    if (h.hookOf? (.facade f) key).isSome then return .hook f key else throw .noAttribute
  else return .member (← settle (h.readPublic f key))

/-- A facade that has no parent layer has no definition of its own to name in a complaint. -/
def baseOfFacade (f : Ref .facade) : Program σ Seen := do
  let h ← look
  match h.parentFacade f with
  | some p => return .value (.facade p)
  | none => throw .noAttribute

/-- Whether `p` gives something, rather than fail for want of access to an attribute. -/
def succeeds (p : Program σ Seen) : Program σ Seen :=
  tryCatch (do let _ ← p; return .truth true)
    (fun e => if e.isCatchable && e.kind.isA .attributeError then return .truth false else throw e)

def program : OutsideOp → Program σ Seen
  | .read f key => readFacade f key
  | .write f key v => do ask (.writePublic f key v); return .done
  | .delete f key => do ask (.deletePublic f key); return .done
  | .has f key => succeeds (readFacade f key)
  | .readClass c key => do return .value (← settle ((← look).readClass c key))
  | .writeClass c key v => do ask (.writeClass c key v); return .done
  | .base f => baseOfFacade f
  | .layers f => do return .facades ((← look).facadeLayers f)
  | .definitionOf f => do
    let h ← look
    return .value (.definition (h.classes.get (h.facadeClass f)).definition)

/-- Do operations one after the other, also after a fault, and note what each gives or fails with
and what it logs. -/
def observe : List OutsideOp → World σ → List (Except Fault Seen × List LogRecord) × World σ
  | [], w => ([], w)
  | op :: ops, w =>
    let (r, w') := op.program.run w
    let (rest, w'') := observe ops w'
    ((r, w'.log.toList.drop w.log.size) :: rest, w'')

theorem run_readFacade (f : Ref .facade) {key : String} (plain : isSpecial key = false)
    (w : World σ) :
    (readFacade f key).run w = ((w.heap.readPublic f key).map .member, w) := by
  rw [readFacade, Program.run_look_bind]
  simp only [plain, Bool.false_eq_true, if_false, Program.run_bind, Program.run_settle]
  cases w.heap.readPublic f key <;> rfl

theorem run_readFacade_of_special (f : Ref .facade) {key : String} (special : isSpecial key = true)
    (w : World σ) :
    (readFacade f key).run w =
      (if (w.heap.hookOf? (.facade f) key).isSome then .ok (.hook f key) else .error .noAttribute,
        w) := by
  rw [readFacade, Program.run_look_bind]
  simp only [special, if_true]
  split <;> rfl

end OutsideOp

end ObjectModel
