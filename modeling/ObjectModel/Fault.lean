import ObjectModel.Display

/-!
# Faults

What can go wrong, by cause. Faults of the object model carry a message, and so do those that a
program raises itself; the others are known by kind alone. A message is made by the client's way
of showing values. Once it is made it stays as it is, whatever happens to the values.
-/

namespace ObjectModel

inductive Fault where
  /-- A declaration came after the class body was closed. -/
  | alreadyFinalized (name : Value)
  | reservedMember (part : Section)
  | memberNotCallable (part : Section) (key value : Value)
  | operatorNotCallable (key : Value)
  | operatorReserved (key : Value)
  | operatorNotSpecial (key : Value)
  | circularInheritance (path : List Value) (next : Value)
  | undefinedClass (name : Value)
  /-- The private side of a class knows no such member. -/
  | noMember (cls : Value) (key : String)
  | noField (cls : Value) (key : String)
  | parentAssigned (cls : Value)
  | parentDeleted
  | noParent (cls : Value)
  /-- A private member was asked for from outside. -/
  | privateMember (key : String)
  /-- The public side knows no such member. -/
  | noPublicMember (key : String)
  | undeletable (key : String) (cls : Value)
  | noStatic (cls : Value) (key : String)
  | notStatic (key : String) (cls : Value)
  /-- A fault whose message is made. -/
  | told (kind : ErrorKind) (message : String)
  /-- A fault that a program raised itself. -/
  | raised (kind : ErrorKind) (payload : Value)
  /-- A fault that a program has got hold of as a thing. -/
  | held (kind : ErrorKind) (r : Ref .exception)
  /-- A fault of plain values, known by its kind alone. -/
  | plain (kind : ErrorKind)
  /-- A name that is no text has to be resolved by the client. No program sees this. -/
  | unresolved (name : Value)
  /-- The bound on nested evaluation was reached. No program sees this. -/
  | exhausted
  /-- A reference named nothing. No program sees this. -/
  | dangling
  deriving DecidableEq

namespace Fault

def kind : Fault → ErrorKind
  | .alreadyFinalized _ | .reservedMember _ | .memberNotCallable _ _ _ | .operatorNotCallable _
  | .operatorReserved _ | .operatorNotSpecial _ | .circularInheritance _ _ => .definitionError
  | .undefinedClass _ => .undefinedClassError
  | .noMember _ _ | .noField _ _ | .noParent _ | .noPublicMember _ | .noStatic _ _ =>
    .undefinedMemberError
  | .parentAssigned _ | .parentDeleted | .privateMember _ | .undeletable _ _ | .notStatic _ _ =>
    .accessError
  | .told k _ | .raised k _ | .held k _ | .plain k => k
  | .exhausted => .recursionError
  | .unresolved _ | .dangling => .runtimeError

/-- Whether a program can handle the fault. -/
def isCatchable : Fault → Bool
  | .exhausted | .dangling => false
  | _ => true

/-- The fault of a value of the wrong type. -/
def wrongType : Fault := .plain .typeError

/-- The fault of a plain value that has no such attribute. -/
def noAttribute : Fault := .plain .attributeError

variable {m : Type → Type} [Monad m]

/-- The message of a fault of the object model, made from the values in it. -/
def message? (d : Display m) : Fault → m (Option String)
  | .alreadyFinalized name => do
    return some ("Class " ++ (← d.spoken name) ++ " is already finalized")
  | .reservedMember part =>
    return some ("'super' is reserved for the parent handle and cannot be a " ++ part.name
      ++ " member")
  | .memberNotCallable part key value => do
    return some ("Only functions are supported in " ++ part.name ++ " definitions ("
      ++ (← d.repr key) ++ " is " ++ (← d.typeName value) ++ ")")
  | .operatorNotCallable key => do
    return some ("Operator " ++ (← d.repr key) ++ " must be a function")
  | .operatorReserved key => do
    return some ("Operator " ++ (← d.spoken key) ++ " is not allowed for classes.")
  | .operatorNotSpecial key => do
    return some ((← d.repr key) ++ " is not a special method name")
  | .circularInheritance path next => do
    let names ← path.mapM d.text
    return some ("Circular inheritance: " ++ " -> ".intercalate names ++ " -> "
      ++ (← d.spoken next))
  | .undefinedClass name => do
    return some ("Class " ++ (← d.repr name) ++ " is not defined")
  | .noMember cls key => do
    return some ((← d.spoken cls) ++ " has no member " ++ (← d.repr (.text key)))
  | .noField cls key => do
    return some ((← d.spoken cls) ++ " has no field " ++ (← d.repr (.text key)))
  | .parentAssigned cls => do
    return some ("'super' is the parent handle of " ++ (← d.spoken cls)
      ++ " and cannot be assigned")
  | .parentDeleted => return some "'super' is the parent handle and cannot be deleted"
  | .noParent cls => do
    return some ((← d.spoken cls) ++ " does not extend another class")
  | .privateMember key => return some ("Trying to access private member " ++ key)
  | .noPublicMember key => return some ("Trying to access non existing member " ++ key)
  | .undeletable key cls => do
    return some ("Cannot delete member " ++ key ++ " of " ++ (← d.spoken cls) ++ " from outside")
  | .noStatic cls key => do
    return some ("Class " ++ (← d.spoken cls) ++ " has no static member " ++ (← d.repr (.text key)))
  | .notStatic key cls => do
    return some ("Cannot add " ++ (← d.repr (.text key)) ++ " to class " ++ (← d.spoken cls)
      ++ "; only declared static members can be assigned")
  | .told _ message => return some message
  | .raised _ _ | .held _ _ | .plain _ | .unresolved _ | .exhausted | .dangling => return none

/-- The same fault with its message made. -/
def tell (d : Display m) (f : Fault) : m Fault := do
  match ← f.message? d with
  | some s => return .told f.kind s
  | none => return f

end Fault

end ObjectModel
