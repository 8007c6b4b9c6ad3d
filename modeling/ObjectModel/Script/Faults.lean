import ObjectModel.Script.Texts

/-!
# Faults as values

A handler is told the kind of a fault and its message, and a context that is left after a fault is
given the fault as a thing. Faults of the object model and those that a script raised itself have
messages; the message of the latter is made from what was raised.
-/

namespace ObjectModel.Script.Machine

variable (m : Machine)

/-- The message of a fault, if it has one. -/
def faultMessage? (f : Fault) : Prog (Option String) := do
  match f with
  | .raised kind payload => return some (← m.payloadText kind payload)
  | .held _ r => do
    if (← exceptionOf r).isTold then return some (← m.exceptionText r) else return none
  | f => f.message? m.display

/-- What a handler is told of a fault: its kind, and its message if it has one. -/
def faultList (f : Fault) : Prog Value := do
  newList #[.text f.kind.name, ((← m.faultMessage? f).map Value.text).getD .null]

/-- The fault as a thing. -/
def hold (f : Fault) : Prog (Ref .exception) := do
  match f with
  | .held _ r => return r
  | .raised kind payload => newException kind #[payload] true
  | f =>
    match ← f.message? m.display with
    | some s => newException f.kind #[.text s] true
    | none => newException f.kind #[] false

/-- Keep with the fault of a missing attribute which attribute of what was missing, unless that is
known already. -/
def noteMissing (r : Ref .exception) (v : Value) (name : String) : Prog Unit := do
  let details := (← exceptionOf r).details
  if details.find? "name" = some .null && details.find? "obj" = some .null then
    changeException r (fun e =>
      { e with details := (details.insert "name" (.text name)).insert "obj" v })
  else return ()

/-- Read an attribute, so that it is known from a fault what was missing. -/
def notingMissing {α : Type} (v : Value) (name : String) (p : Prog α) : Prog α :=
  tryCatch p (fun f => do
    if f.isCatchable && f.kind.isA .attributeError then
      let r ← m.hold f
      noteMissing r v name
      throw (.held f.kind r)
    else throw f)

/-- Enter a context, do something, and leave the context again, also after a fault. The hook for
leaving can make the fault disappear. -/
def within (context : Value) (bind : Value → Prog Unit) (body : Prog Value) : Prog Value := do
  if !(← hasHook context "__enter__") || !(← hasHook context "__exit__") then wrongType
  else
    let entered ← m.askHook context "__enter__" []
    let outcome ← tryCatch
      (do
        bind entered
        return Except.ok (← body))
      (fun f => if f.isCatchable then return Except.error f else throw f)
    match outcome with
    | .ok v => do
      let _ ← m.askHook context "__exit__" [.null, .null, .null]
      return v
    | .error f => do
      let r ← m.hold f
      let answer ← m.askHook context "__exit__"
        [.errorKind f.kind, .exception r, .foreign "traceback"]
      if ← m.truth answer then return .null else throw (.held f.kind r)

end ObjectModel.Script.Machine
