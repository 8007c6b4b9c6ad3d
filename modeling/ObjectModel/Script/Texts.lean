import ObjectModel.Script.Iteration
import ObjectModel.Script.Sorting
import ObjectModel.Text.FormatSpec
import ObjectModel.Text.Quoted

/-!
# Texts of values

What `str`, `repr`, `format` and `print` give. An instance is shown by its hooks where it has
them. `str` falls back on `repr`; a format specification that is not empty is understood by texts,
numbers and kinds of members alone.
-/

namespace ObjectModel.Script

open Text (quoted)

/-- The text of an integer. Integers with too many digits have none. -/
def intText (n : Int) : Prog String :=
  if Text.isTooLong n then plainFault .valueError else return toString n

/-- Go on with a result, or fail with the kind of fault. -/
def orFault {α : Type} : Except ErrorKind α → Prog α
  | .ok a => return a
  | .error k => plainFault k

/-- Do something while a value counts as being shown. A value within itself is not shown again. -/
def whileShowing (v : Value) (again : String) (p : Prog String) : Prog String := do
  if ← viewing (fun w => w.showing.contains v) then return again
  else
    poke (fun w => { w with showing := v :: w.showing })
    let leave : Prog Unit := poke (fun w => { w with showing := w.showing.erase v })
    let s ← tryCatch p (fun f => do
      leave
      throw f)
    leave
    return s

namespace Machine

variable (m : Machine)

/-- The texts of the items of a sequence from place `i` on. -/
def reprItems (s : Sequence) : Nat → Nat → Array String → Prog (Array String)
  | 0, _, _ => throw .exhausted
  | steps + 1, i, shown => do
    match ← s.item? i with
    | some v => reprItems s steps (i + 1) (shown.push (← m.repr v))
    | none => return shown

/-- The texts of the entries of a table from place `i` on. -/
def reprEntries (t : TableRef) : Nat → Nat → Array String → Prog (Array String)
  | 0, _, _ => throw .exhausted
  | steps + 1, i, shown => do
    match ← nextEntry t i with
    | some (e, next) => do
      let key ← m.repr e.key
      let value ← m.repr e.value
      reprEntries t steps next (shown.push (key ++ ": " ++ value))
    | none => return shown

def reprTable (t : TableRef) : Prog String := do
  let parts ← m.reprEntries t loopBound 0 #[]
  return "\x7b" ++ ", ".intercalate parts.toList ++ "\x7d"

def reprTuple (r : Ref .tuple) : Prog String := do
  match (← m.reprItems (.tuple r) loopBound 0 #[]).toList with
  | [one] => return "(" ++ one ++ ",)"
  | parts => return "(" ++ ", ".intercalate parts ++ ")"

/-- The text that a hook gave. -/
def hookText : Value → Prog String
  | .text s => return s
  | _ => wrongType

/-- The text of a fault that was made from one value. -/
def payloadText (kind : ErrorKind) (payload : Value) : Prog String :=
  if kind = .keyError then m.repr payload else m.str payload

/-- The text of an exception is made from what it was made from. -/
def exceptionText (r : Ref .exception) : Prog String := do
  let e ← exceptionOf r
  match e.details.find? "msg" with
  | some (.text s) => return s
  | _ =>
    match (← tupleItems e.args).toList with
    | [] => return ""
    | [one] => m.payloadText e.kind one
    | _ => m.repr (.tuple e.args)

def strStep (v : Value) : Prog String := do
  match v with
  | .text s => return s
  | .memberKind k => return "MemberKind." ++ k.name
  | .exception r => m.exceptionText r
  | _ =>
    match ← m.askHook? v "__str__" [] with
    | some r => hookText r
    | none => m.repr v

/-- The text of a value inside a sentence. -/
def spoken (v : Value) : Prog String := do
  match v with
  | .text s => return s
  | _ =>
    match ← m.askHook? v "__format__" [.text ""] with
    | some r => hookText r
    | none => m.str v

def display : Display Prog where
  text := hookText
  spoken := m.spoken
  repr := m.repr
  typeName := typeName
  truth := m.truth
  sorted := m.sorted

/-- Make the message of a fault of the object model where the fault arises. -/
def explained {α : Type} (p : Prog α) : Prog α :=
  tryCatch p (fun f => do throw (← f.tell m.display))

/-- Fail with a fault of the object model. -/
def refuse {α : Type} (f : Fault) : Prog α := m.explained (throw f)

/-- Do an action of the model. -/
def act (a : Action Workspace) : Prog a.Result := m.explained (ask a)

/-- Go on with what the model says. -/
def settled {α : Type} (r : Except Fault α) : Prog α := m.explained (settle r)

/-- The items of a value, in order, as a list is shown. -/
def inOrder (v : Value) : Prog String := do
  let items ← listItems (← m.listOf v)
  return bracketed (← (← m.sorted items.toList).mapM m.repr)

/-- Describe whatever has the attributes of a definition. -/
def describeByAsking (d : Value) : Prog String := do
  let parent ← if ← m.truth (← m.read d "parent") then
      (" extends " ++ ·) <$> do m.spoken (← m.read d "parent")
    else pure ""
  let name ← m.spoken (← m.read d "name")
  let tables ← [("static", "statics"), ("private", "private_methods"), ("public", "public_methods"),
    ("operators", "operators")].mapM (fun (label, name) => do
      return label ++ "=" ++ (← m.inOrder (← m.read d name)))
  return definitionLine name parent tables

def describe (d : Ref .definition) : Prog String := do
  let r ← seeing (fun h => h.definition d)
  if isSimpleDefinition r && !(← isAltered (.definition d)) then r.describe m.display
  else m.describeByAsking (.definition d)

/-- What a method is called in its text. -/
def calleeName (receiver : Value) : Callee → Prog String
  | .function _ => return "?"
  | .hook name => return name
  | .own name => do return (← typeName receiver) ++ "." ++ name

/-- The text of a value that has no hook for it. -/
def plainRepr (v : Value) : Prog String := do
  match v with
  | .null => return "None"
  | .notImplemented => return "NotImplemented"
  | .bool b => return Settings.flag b
  | .int n => intText n
  | .float x _ => return Text.floatText .plain x
  | .complex z _ => return Text.complexText z
  | .text s => return quoted s
  | .list r => whileShowing v "[...]" (do
      return bracketed (← m.reprItems (.list r) loopBound 0 #[]).toList)
  | .tuple r => whileShowing v "(...)" (m.reprTuple r)
  | .dict r => whileShowing v "\x7b...\x7d" (m.reprTable (.own r))
  | .entries d => do
    let shown ← whileShowing v "\x7b...\x7d" (m.reprTable (.entries d))
    return "mappingproxy(" ++ shown ++ ")"
  | .function _ => return "<function>"
  | .method r => do
    let b ← viewing (fun w => w.methods.get r)
    let name ← calleeName b.receiver b.callee
    return "<bound method " ++ name ++ " of " ++ (← m.repr b.receiver) ++ ">"
  | .iterator _ => return "<" ++ (← typeName v) ++ " object>"
  | .exception r => do
    let e ← exceptionOf r
    let shown ← (← tupleItems e.args).toList.mapM m.repr
    return e.kind.name ++ "(" ++ ", ".intercalate shown ++ ")"
  | .catalog r =>
    match ← m.holder v with
    | .catalog _ => do
      let names ← m.sorted ((← seeing (fun h => h.names r)).map .text)
      return "Catalog(" ++ bracketed (← names.mapM m.repr) ++ ")"
    | classes => return "Catalog(" ++ (← m.inOrder classes) ++ ")"
  | .builder _ => do
    let state := if ← m.truth (← m.read v "finalized") then "finalized" else "open"
    let name ← m.spoken (← m.read (← m.read v "definition") "name")
    return "DefinitionBuilder(" ++ name ++ ", " ++ state ++ ")"
  | .definition r => m.describe r
  | .declaration r => whileShowing v "..." (do
      match ← seeing (fun h => h.declarations.get r) with
      | .parent name => return "Extends(parent=" ++ (← m.repr name) ++ ")"
      | .members part _ => do
        return "Declaration(section=" ++ quoted part.name ++ ", entries="
          ++ (← m.repr (.entries r)) ++ ")")
  | .cls _ => do return "<class " ++ (← m.repr (← m.shownName v)) ++ ">"
  | .facade _ => do return "<" ++ (← m.spoken (← m.shownName v)) ++ " object>"
  | .state _ => do return "<" ++ (← m.spoken (← m.shownName v)) ++ " private state>"
  | .memberKind k => return "<MemberKind." ++ k.name ++ ": " ++ toString k.number ++ ">"
  | .errorKind k => return "<class " ++ quoted ((k.home?.map (· ++ ".")).getD "" ++ k.name) ++ ">"
  | .stateType c => do
    return "<class " ++ quoted ((← seeing (fun h => (h.classes.get c).typeName)) ++ "State") ++ ">"
  | .facadeType c => do
    return "<class " ++ quoted (← seeing (fun h => (h.classes.get c).typeName)) ++ ">"
  | .foreign name => return "<" ++ name ++ ">"

def reprStep (v : Value) : Prog String := do
  match ← m.askHook? v "__repr__" [] with
  | some r => hookText r
  | none => m.plainRepr v

/-- The format of a value by a specification that is a text. -/
def formattedBy (v : Value) (spec : String) : Prog String := do
  match v with
  | .text s =>
    if spec = "" then return s
    else orFault (do (← Text.FormatSpec.read '<' spec).formatText s)
  | .memberKind _ => do
    let s ← m.str v
    if spec = "" then return s
    else orFault (do (← Text.FormatSpec.read '<' spec).formatText s)
  | .float x _ =>
    if spec = "" then m.str v
    else orFault (do (← Text.FormatSpec.read '>' spec).formatFloat x)
  | .complex z _ =>
    if spec = "" then m.str v
    else orFault (do (← Text.FormatSpec.read '>' spec).formatComplex z)
  | .int _ | .bool _ =>
    if spec = "" then m.str v
    else do
      let n := (plainInt? v).getD 0
      let spec ← orFault (Text.FormatSpec.read '>' spec)
      if (spec.type.map Text.FormatSpec.isFloatType).getD false then
        match Binary64.ofInt? n with
        | some x => orFault (spec.formatFloat x)
        | none => plainFault .overflowError
      else orFault (spec.formatInt n)
  | _ =>
    match ← m.askHook? v "__format__" [.text spec] with
    | some r => hookText r
    | none => if spec = "" then m.str v else wrongType

/-- The format of a value. The specification has to be a text. -/
def formatted (v spec : Value) : Prog String :=
  match spec with
  | .text s => m.formattedBy v s
  | _ => wrongType

/-- Print values with spaces between them. Each piece is printed before the next is made. -/
def printAll : List Value → Prog Unit
  | [] => ask (.print "\n")
  | [v] => do
    ask (.print (← m.str v))
    ask (.print "\n")
  | v :: vs => do
    ask (.print (← m.str v))
    ask (.print " ")
    printAll vs

end Machine

end ObjectModel.Script
