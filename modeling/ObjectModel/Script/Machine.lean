import ObjectModel.Script.KeyCode
import ObjectModel.Script.Workspace

/-!
# Machines

A machine gives the meaning of everything that may run client code: evaluating an expression,
calling a value, reading an attribute, comparing, showing and coding keys. The operations of the
language are written against a machine, and the evaluator ties the knot by building a machine on
top of a shallower one.
-/

namespace ObjectModel.Script

structure Machine where
  eval : Ref .frame → Expr → Prog Value
  call : Value → Arguments → Prog Value
  /-- An attribute of a value, by its name. -/
  read : Value → String → Prog Value
  compare : CompareOp → Value → Value → Prog Value
  /-- The text of a value on its own. -/
  str : Value → Prog String
  /-- The text of a value inside a list. -/
  repr : Value → Prog String
  /-- The code of a key. -/
  code : Value → Prog Int

/-- The table that a value is. -/
def TableRef.ofValue? : Value → Option TableRef
  | .dict r => some (.own r)
  | .entries d => some (.entries d)
  | _ => none

/-- The table of a declaration. -/
def declaredTable (h : Heap) (d : Ref .declaration) : Table Key Value :=
  match h.declarations.get d with
  | .members _ t => t
  | .parent _ => .empty

def tableSize : TableRef → Prog Nat
  | .own r => viewing (fun w => (w.dicts.get r).size)
  | .entries d => seeing (fun h => (declaredTable h d).size)

namespace Machine

/-- The machine that can do nothing. -/
def exhausted : Machine where
  eval _ _ := throw .exhausted
  call _ _ := throw .exhausted
  read _ _ := throw .exhausted
  compare _ _ _ := throw .exhausted
  str _ := throw .exhausted
  repr _ := throw .exhausted
  code _ := throw .exhausted

variable (m : Machine)

/-- Whether a value answers to a hook. -/
def hasHook (v : Value) (name : String) : Prog Bool :=
  seeing (fun h => (h.hookOf? v name).isSome)

/-- Call an operator hook of a value, if it has one of that name. -/
def askHook? (v : Value) (name : String) (args : List Value) : Prog (Option Value) := do
  if ← hasHook v name then return some (← callHook m.call v name (Arguments.ofList args))
  else return none

/-- Call an operator hook. To have none is the same as to answer `NotImplemented`. -/
def askHook (v : Value) (name : String) (args : List Value) : Prog Value := do
  return (← m.askHook? v name args).getD .notImplemented

/-- The integer that a value is by itself. -/
def plainInt? : Value → Option Int
  | .int n => some n
  | .bool b => some (if b then 1 else 0)
  | _ => none

/-- The integer that a value stands for where a count or a position is wanted. -/
def index (v : Value) : Prog Int := do
  match plainInt? v with
  | some n => return n
  | none =>
    match (← m.askHook? v "__index__" []).bind plainInt? with
    | some n => return n
    | none => wrongType

/-- Lengths and positions fit into this range. -/
def maxLength : Int := powerOfTwo 63 - 1

/-- The length that a hook gave. -/
def hookLength (v : Value) : Prog Nat := do
  let n ← m.index v
  if n < 0 then plainFault .valueError
  else if n > maxLength then plainFault .overflowError
  else return n.toNat

/-- The length of a value that has no hooks. -/
def plainLength? (v : Value) : Prog (Option Nat) := do
  match v with
  | .text s => return some s.length
  | .list r => viewing (fun w => some (w.lists.get r).size)
  | .tuple r => viewing (fun w => some (w.tuples.get r).size)
  | .catalog c => seeing (fun h => some (h.catalogs.get c).classes.size)
  | _ =>
    match TableRef.ofValue? v with
    | some t => return some (← tableSize t)
    | none => return none

/-- What holds the classes of a catalog: the catalog itself, or the table that it shows if it was
altered. Any other value holds what it holds itself. -/
def holder (v : Value) : Prog Value := do
  match v with
  | .catalog _ => if ← isAltered v then m.read v "_classes" else return v
  | v => return v

/-- As `holder`, for looking up a key. A catalog that was not altered knows texts, and the values
that are equal to none; for any other key its table has to be searched. -/
def holderFor (v key : Value) : Prog Value := do
  match v with
  | .catalog _ =>
    if isPlainKey key && !(← isAltered v) then return v else m.read v "_classes"
  | v => return v

def length (v : Value) : Prog Nat := do
  let v ← m.holder v
  match ← plainLength? v with
  | some n => return n
  | none =>
    match ← m.askHook? v "__len__" [] with
    | some r => m.hookLength r
    | none => wrongType

/-- Whether a value counts as true: by its hook for truth, else by its length. -/
def truth (v : Value) : Prog Bool := do
  match v with
  | .null => return false
  | .bool b => return b
  | .int n => return n != 0
  | .float x _ => return !x.isZero
  | .complex z _ => return !z.isZero
  | .catalog _ => return (← m.length v) != 0
  | _ =>
    match ← plainLength? v with
    | some n => return n != 0
    | none =>
      match ← m.askHook? v "__bool__" [] with
      | some (.bool b) => return b
      | some _ => wrongType
      | none =>
        match ← m.askHook? v "__len__" [] with
        | some r => return (← m.hookLength r) != 0
        | none => return true

/-- Equality of values that are plain data, where it can be told without asking. -/
def plainEqual? (v w : Value) : Option Bool :=
  match v, w with
  | .text s, .text t => some (decide (s = t))
  | .int a, .int b => some (decide (a = b))
  | .int _, .text _ | .text _, .int _ => some false
  | _, _ => none

/-- Read an operation of a value and call it. -/
def callMember (v : Value) (name : String) (args : List Value) : Prog Value := do
  m.call (← m.read v name) (Arguments.ofList args)

/-- What a thing was made with, as long as it has it. -/
def requireSlot (v : Value) (name : String) : Prog Unit := do
  if ← hasLost v name then noAttribute else return ()

/-- What stands in for the definition behind the instances of a class, if something does. -/
def standIn? (c : Ref .cls) : Prog (Option Value) := do
  let e ← seeing (fun h => classEntry h c)
  viewing (fun w => w.standInFor? e)

/-- The definition behind the instances of a class, or what stands in for it. -/
def classDefinition (c : Ref .cls) : Prog Value := do
  match ← standIn? c with
  | some d => return d
  | none => seeing (fun h => .definition (h.classes.get c).definition)

/-- The name of a class, which is asked from what stands in for its definition. -/
def className (c : Ref .cls) : Prog Value := do
  match ← standIn? c with
  | some d => m.read d "name"
  | none => seeing (fun h => h.className c)

/-- The class by whose definition a private state or a class object goes. -/
def definedClass (v : Value) : Prog (Ref .cls) := do
  requireSlot v "_definition"
  match v with
  | .cls c => return c
  | .state s => seeing (fun h => h.stateClass s)
  | _ => noAttribute

/-- The definition that a private state or a class object keeps, or what stands in for it. -/
def keptDefinition (v : Value) : Prog Value := do classDefinition (← definedClass v)

/-- What a value keeps apart from its members, where no rule of access applies. -/
def slot (v : Value) (name : String) : Prog Value := do
  match ← viewing (fun w => (w.givenTo v).find? name) with
  | some given => return given
  | none =>
    match v, name with
    | .state s, "_parent" => seeing (fun h => ((h.parentState s).map Value.state).getD .null)
    | .facade f, "_parent" => seeing (fun h => ((h.parentFacade f).map Value.facade).getD .null)
    | v, "_definition" => keptDefinition v
    | .facade f, "_state" => seeing (fun h => .state (h.facadeState f))
    | _, _ => noAttribute

/-- The name that is shown of an instance or a class object. -/
def shownName (v : Value) : Prog Value := do
  match v with
  | .facade f => m.className (← definedClass (.state (← seeing (fun h => h.facadeState f))))
  | v => m.className (← definedClass v)

/-- Whether two values are the same thing or compare as equal. -/
def equal (v w : Value) : Prog Bool := do
  match plainEqual? v w with
  | some b => return b
  | none =>
    if isSame v w then return true
    else m.truth (← m.compare .eq v w)

end Machine

end ObjectModel.Script
