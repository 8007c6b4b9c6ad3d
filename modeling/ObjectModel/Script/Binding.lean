import ObjectModel.Script.Builders

/-!
# Calls

How the arguments of a call are matched with the parameters of a function, and what calling a
value does. Positional arguments are taken in order, named ones by name. It is a fault if an
argument is missing, given twice, or fits no parameter, and then the body does not run.
-/

namespace ObjectModel.Script

/-- What a parameter gets. -/
inductive Slot where
  | given (v : Value)
  /-- The parameter's own default, still to be evaluated. -/
  | default (e : Expr)
  | rest (vs : List Value)
  | keywords (named : Table String Value)

/-- The name by which a parameter can be given. -/
def Param.givenName? : Param → Option String
  | .required name | .optional name _ => some name
  | _ => none

/-- The named arguments that no parameter takes by its name. -/
def surplusNamed (params : List Param) (named : Table String Value) : Table String Value :=
  ⟨named.entries.filter (fun e => !params.any (fun p => p.givenName? == some e.1))⟩

def takesKeywords : Param → Bool
  | .keywords _ => true
  | _ => false

/-- Match parameters in their order, with the positional arguments that are left. -/
def matchParams (surplus named : Table String Value) :
    List Param → List Value → Option (List (String × Slot) × List Value)
  | [], vs => some ([], vs)
  | .required name :: ps, v :: vs => do
    if named.contains name then none
    let (slots, left) ← matchParams surplus named ps vs
    return ((name, .given v) :: slots, left)
  | .optional name _ :: ps, v :: vs => do
    if named.contains name then none
    let (slots, left) ← matchParams surplus named ps vs
    return ((name, .given v) :: slots, left)
  | .required name :: ps, [] => do
    let v ← named.find? name
    let (slots, left) ← matchParams surplus named ps []
    return ((name, .given v) :: slots, left)
  | .optional name e :: ps, [] => do
    let (slots, left) ← matchParams surplus named ps []
    match named.find? name with
    | some v => return ((name, .given v) :: slots, left)
    | none => return ((name, .default e) :: slots, left)
  | .rest name :: ps, vs => do
    let (slots, left) ← matchParams surplus named ps []
    return ((name, .rest vs) :: slots, left)
  | .keywords name :: ps, vs => do
    let (slots, left) ← matchParams surplus named ps vs
    return ((name, .keywords surplus) :: slots, left)

/-- Match all arguments with the parameters, or find that they do not fit. -/
def bindArguments (params : List Param) (args : Arguments) : Option (List (String × Slot)) := do
  let surplus := surplusNamed params args.named
  let (slots, left) ← matchParams surplus args.named params args.positional
  if left.isEmpty && (surplus.size == 0 || params.any takesKeywords) then return slots
  else none

namespace Machine

variable (m : Machine)

/-- The value of a slot. Defaults are evaluated in the frame in which the function was made. -/
def slotValue (frame : Ref .frame) : Slot → Prog Value
  | .given v => return v
  | .default e => m.eval frame e
  | .rest vs => newList vs.toArray
  | .keywords named => newPlainDict named.entries

def slotValues (frame : Ref .frame) (vars : Table String Value) :
    List (String × Slot) → Prog (Table String Value)
  | [] => return vars
  | (name, slot) :: slots => do
    slotValues frame (vars.insert name (← m.slotValue frame slot)) slots

/-- Run the body of a function in a fresh frame under the one in which it was made. -/
def applyClosure (c : Closure) (args : Arguments) : Prog Value := do
  match bindArguments c.params args with
  | none => wrongType
  | some slots => do
    let vars ← m.slotValues c.frame .empty slots
    m.eval (← newFrame ⟨vars, some c.frame⟩) c.body

/-- The parameters by which a private state is made from a definition and a parent layer. -/
def stateParams : List Param := [.required "self", .required "definition", .optional "parent" .null]

/-- Make a private state that belongs to no instance. -/
def makeState (name : String) (hooks : Table Key Value) (args : Arguments) : Prog Value := do
  match bindArguments stateParams (args.after .null) with
  | some [_, (_, .given definition), (_, .given parent)] => m.bareState name hooks definition parent
  | some [_, (_, .given definition), _] => m.bareState name hooks definition .null
  | _ => wrongType

/-- Under this hook name a facade does not find the hook of its private state, but the type of all
private states. -/
def baseHook : String := "__base__"

def callMethod (b : BoundMethod) (args : Arguments) : Prog Value := do
  match b with
  | ⟨receiver, .function f⟩ => m.call f (args.after receiver)
  | ⟨receiver, .own name⟩ => m.callOperation receiver name args
  | ⟨.facade f, .hook name⟩ =>
    if name = baseHook && !args.isNamed "facade" then
      let s ← seeing (fun h => h.facadeState f)
      m.makeState "Private" .empty (args.after (.state s))
    else callHook m.call (.facade f) name args
  | ⟨receiver, .hook name⟩ => callHook m.call receiver name args

/-- Call a value. -/
def callStep (v : Value) (args : Arguments) : Prog Value := do
  match v with
  | .function r => m.applyClosure (← viewing (fun w => w.functions.get r)) args
  | .method r => m.callMethod (← viewing (fun w => w.methods.get r)) args
  | .cls c => return .facade (← m.instantiate c args)
  | .builder _ => if args.named.size ≠ 0 then wrongType else m.build v args.positional
  | .stateType c => do
    let r ← seeing (fun h => h.classes.get c)
    m.makeState r.typeName r.operators args
  | .errorKind k =>
    if args.named.size ≠ 0 then wrongType
    else return .exception (← newException k args.positional.toArray false)
  | _ => if ← hasHook v "__call__" then callHook m.call v "__call__" args else wrongType

/-- The code of a method is made from its receiver and its function. -/
def codeOfMethod (b : BoundMethod) : Prog Int := do
  let code ← match b.callee with
    | .function f => m.code f
    | .hook name | .own name => pure (KeyCode.ofText name)
  return KeyCode.ofBound b.receiver code

/-- The codes of the items of a sequence, behind those already found. -/
def codesFrom (s : Sequence) : Nat → Nat → Array Int → Prog (Array Int)
  | 0, _, _ => throw .exhausted
  | steps + 1, i, codes => do
    match ← s.item? i with
    | some v => codesFrom s steps (i + 1) (codes.push (← m.code v))
    | none => return codes

/-- The code of an instance is what its hook says. An instance that has a hook for equality but
none for codes cannot be a key. -/
def codeOfInstance (v : Value) : Prog Int := do
  match ← m.askHook? v "__hash__" [] with
  | some r =>
    match plainInt? r with
    | some n => return KeyCode.ofHook n
    | none => wrongType
  | none => if ← hasHook v "__eq__" then wrongType else return KeyCode.ofIdentity v

/-- The code of a number that is, or is a part of, the given value. -/
def codeOfNumber (v : Value) (x : Binary64) : Int :=
  if x.isNaN then KeyCode.ofIdentity v else KeyCode.ofBinary64 x

/-- The code by which a value is looked up as a key. -/
def codeStep (v : Value) : Prog Int := do
  match v with
  | .bool b => return if b then 1 else 0
  | .int n => return KeyCode.ofInt n
  | .float x _ => return codeOfNumber v x
  | .complex z _ => return KeyCode.ofParts (codeOfNumber v z.re) (codeOfNumber v z.im)
  | .text s => return KeyCode.ofText s
  | .memberKind k => return KeyCode.ofText k.name
  | .list _ | .dict _ | .entries _ | .definition _ => wrongType
  | .tuple r => return KeyCode.ofCodes (← m.codesFrom (.tuple r) loopBound 0 #[]).toList
  | .method r => m.codeOfMethod (← viewing (fun w => w.methods.get r))
  | .declaration r =>
    match ← seeing (fun h => h.declarations.get r) with
    | .parent name => return KeyCode.ofCodes [← m.code name]
    | .members part _ => do
      let _ ← m.code (.text part.name)
      wrongType
  | .state _ | .facade _ => m.codeOfInstance v
  | _ => return KeyCode.ofIdentity v

end Machine

end ObjectModel.Script
