import ObjectModel.Script.Operations

/-!
# Evaluation

The meaning of expressions, and the machine of a given depth.
-/

namespace ObjectModel.Script

namespace Machine

variable (m : Machine)

/-- Whether an operand writes out a number or a text, or works one out of such. -/
def writesOut : Expr → Bool
  | .int _ | .text _ | .apply .toInt [.text _] => true
  | .apply (.binary _) [.int _, .int _] | .apply (.binary _) [.text _, .text _] => true
  | _ => false

/-- Small integers and the shortest texts exist once. -/
def existsOnce : Value → Bool
  | .int n => -5 ≤ n && n ≤ 256
  | .text s => s.length = 0 || (s.length = 1 && s.front.toNat < 256)
  | _ => true

/-- Whether the values of two operands are the same thing. What an operand writes out is a thing of
its own unless such things exist once. -/
def sameOperands (a b : Expr) (v w : Value) : Bool :=
  isSame v w && (existsOnce v || !(writesOut a || writesOut b))

/-- The values of expressions, behind those already found. -/
def evalAll (frame : Ref .frame) (found : Array Value) : List Expr → Prog (Array Value)
  | [] => return found
  | e :: es => do evalAll frame (found.push (← m.eval frame e)) es

def evalNamed (frame : Ref .frame) (found : Table String Value) :
    List (String × Expr) → Prog (Table String Value)
  | [] => return found
  | (name, e) :: es => do evalNamed frame (found.insert name (← m.eval frame e)) es

def evalArguments (frame : Ref .frame) (args : List Expr) (named : List (String × Expr)) :
    Prog Arguments := do
  let vs ← m.evalAll frame #[] args
  return ⟨vs.toList, ← m.evalNamed frame .empty named⟩

/-- The value of a sequence is that of its last expression. -/
def evalSeq (frame : Ref .frame) : List Expr → Prog Value
  | [] => return .null
  | [e] => m.eval frame e
  | e :: es => do
    let _ ← m.eval frame e
    evalSeq frame es

def evalEntries (frame : Ref .frame) (r : Ref .dict) : List (Expr × Expr) → Prog Unit
  | [] => return ()
  | (k, e) :: es => do
    let key ← m.eval frame k
    let v ← m.eval frame e
    m.setItem (.own r) key v
    evalEntries frame r es

def bind (frame : Ref .frame) (name : String) (v : Value) : Prog Unit :=
  poke (fun w => w.bind frame name v)

def evalStep (frame : Ref .frame) (e : Expr) : Prog Value := do
  match e with
  | .null => return .null
  | .notImplemented => return .notImplemented
  | .bool b => return .bool b
  | .int n => return .int n
  | .text s => return .text s
  | .var name =>
    match ← viewing (fun w => w.lookup name frame) with
    | some v => return v
    | none => plainFault .nameError
  | .bind name e => do
    let v ← m.eval frame e
    bind frame name v
    return v
  | .seq es => m.evalSeq frame es
  | .ite cond yes no => do
    if ← m.truth (← m.eval frame cond) then m.eval frame yes else m.eval frame no
  | .not e => do return .bool (!(← m.truth (← m.eval frame e)))
  | .fn params body => newFunction ⟨params, body, frame⟩
  | .call f args named => do
    let fv ← m.eval frame f
    m.call fv (← m.evalArguments frame args named)
  | .send target key args named => do
    let t ← m.eval frame target
    let f ← m.readAttribute t (← m.eval frame key)
    m.call f (← m.evalArguments frame args named)
  | .attempt body kind name handler =>
    tryCatch (m.eval frame body) (fun f => do
      if f.isCatchable && f.kind.isA kind then
        bind frame name (← m.faultList f)
        m.eval frame handler
      else throw f)
  | .raise kind text => do throw (.raised kind (← m.eval frame text))
  | .print es => do
    m.printAll (← m.evalAll frame #[] es).toList
    return .null
  | .within context name body => do
    m.within (← m.eval frame context) (bind frame name) (m.eval frame body)
  | .dict entries => do
    let r ← newDict .empty
    m.evalEntries frame r entries
    return .dict r
  | .declare name catalog items => do
    let n ← m.eval frame name
    let c ← m.eval frame catalog
    let b ← m.perform (catalogOr c) "define" [n]
    m.call b (Arguments.ofList (← m.evalAll frame #[] items).toList)
  | .apply .same [a, b] => do
    let v ← m.eval frame a
    return .bool (sameOperands a b v (← m.eval frame b))
  | .apply op operands => do m.applyOperation op (← m.evalAll frame #[] operands).toList

/-- The machine of a given depth. -/
def ofDepth : Nat → Machine
  | 0 => exhausted
  | n + 1 =>
    { eval := fun frame e => (ofDepth n).evalStep frame e
      call := fun v args => (ofDepth n).callStep v args
      read := fun v name => (ofDepth n).readStep v name
      compare := fun op v w => (ofDepth n).compareStep op v w
      str := fun v => (ofDepth n).strStep v
      repr := fun v => (ofDepth n).reprStep v
      code := fun v => (ofDepth n).codeStep v }

end Machine

/-- How deep scripts are evaluated. Programs that come to an end stay far above this. -/
def scriptDepth : Nat := 250000

def scriptMachine : Machine := Machine.ofDepth scriptDepth

end ObjectModel.Script
