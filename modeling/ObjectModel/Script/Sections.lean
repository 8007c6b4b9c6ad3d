import ObjectModel.Script.Mapping

/-!
# Tables of class bodies

A table for a section of a class body is checked entry by entry, in the order in which the value
gives them, and then copied. Tables with simple keys are checked by the model itself; the keys of
others may have hooks, which are asked. The section of statics looks at the keys alone, the others
at keys and values.
-/

namespace ObjectModel.Script

def Entry.toMember (e : Entry) : Key × Value := (Key.ofValue e.key e.code, e.value)

/-- The entries as a table of the model. -/
def memberTableOf (es : List Entry) : Table Key Value := ⟨es.map Entry.toMember⟩

namespace Machine

variable (m : Machine)

def checkMemberName (part : Section) (key : Value) : Prog Unit := do
  if ← m.equal key (.text parentHandle) then m.refuse (.reservedMember part) else return ()

/-- Whether a key is one of the reserved hook names. -/
def isReserved (key : Value) : Prog Bool := do
  match key with
  | .text name => return reservedOperators.contains name
  | _ => do
    let code ← m.code key
    match reservedOperators.find? (fun name => KeyCode.ofText name = code) with
    | some name => m.equal (.text name) key
    | none => return false

/-- Check one entry of a section other than that of the statics. -/
def checkEntry (part : Section) (key value : Value) : Prog Unit := do
  match part with
  | .operators => do
    if !(← seeing (fun h => h.callable value)) then m.refuse (.operatorNotCallable key)
    else if ← m.isReserved key then m.refuse (.operatorReserved key)
    else
      match key with
      | .text name => if isHookName name then return () else m.refuse (.operatorNotSpecial key)
      | _ => m.refuse (.operatorNotSpecial key)
  | part => do
    m.checkMemberName part key
    if ← seeing (fun h => h.callable value) then return ()
    else m.refuse (.memberNotCallable part key value)

/-- Check the keys that an iterator gives. -/
def checkKeys (part : Section) (it : Value) : Nat → Prog Unit
  | 0 => throw .exhausted
  | steps + 1 => do
    match ← m.next? it with
    | none => return ()
    | some key => do
      m.checkMemberName part key
      checkKeys part it steps

/-- Check the pairs that an iterator gives. -/
def checkPairs (part : Section) (it : Value) : Nat → Prog Unit
  | 0 => throw .exhausted
  | steps + 1 => do
    match ← m.next? it with
    | none => return ()
    | some pair => do
      let (key, value) ← m.pairOf pair
      m.checkEntry part key value
      checkPairs part it steps

/-- Check the entries of a table from place `i` on. The table has to keep its size. -/
def checkTable (part : Section) (t : TableRef) (size : Nat) : Nat → Nat → Prog Unit
  | 0, _ => throw .exhausted
  | steps + 1, i => do
    if (← tableSize t) ≠ size then plainFault .runtimeError
    else
      match ← nextEntry t i with
      | none => return ()
      | some (e, next) => do
        m.checkEntry part e.key e.value
        checkTable part t size steps next

/-- Check all that a value gives for a section. -/
def checkSection (part : Section) (v : Value) : Prog Unit := do
  match part, TableRef.ofValue? v with
  | .statics, _ => do m.checkKeys part (← m.iter v) loopBound
  | part, some t => do m.checkTable part t (← tableSize t) loopBound 0
  | part, none => do
    let pairs ← m.callMember v "items" []
    m.checkPairs part (← m.iter pairs) loopBound

/-- The table that a value is, if all of its keys are simple. -/
def plainTable? (v : Value) : Prog (Option (Table Key Value)) := do
  match TableRef.ofValue? v with
  | none => return none
  | some t => do
    let es ← tableEntries t
    return if es.all (fun e => isSimple e.key) then some (memberTableOf es) else none

/-- A declaration of a section, from whatever can be read as a table. -/
def declareMembers (part : Section) (v : Value) : Prog Value := do
  match ← plainTable? v with
  | some t => return .declaration (← m.act (.declare (.members part t)))
  | none => do
    m.checkSection part v
    let r ← m.dictOf v
    let es ← tableEntries (.own r)
    return .declaration (← ask (.keep (.members part (memberTableOf es))))

/-- The definition of an open builder. -/
def openDefinition (b : Ref .builder) : Prog Value := do
  if ← m.truth (← m.read (.builder b) "finalized") then
    m.refuse (.alreadyFinalized (← m.read (← m.read (.builder b) "definition") "name"))
  else m.read (.builder b) "definition"

/-- Whether a builder works as the model says: neither it nor its definition was altered. -/
def isUntouched (b : Ref .builder) : Prog Bool := do
  let d ← seeing (fun h => h.builderDefinition b)
  return !(← isAltered (.builder b)) && !(← isAltered (.definition d))

/-- The table that is to be written to a builder, if the model can do it: the keys on both sides are
simple. -/
def tableFor? (b : Ref .builder) (part : Section) (v : Value) :
    Prog (Option (Table Key Value)) := do
  let target ← seeing (fun h => (h.definition (h.builderDefinition b)).table part)
  if (← isUntouched b) && target.keys.all (fun k => isSimple k.toValue) then plainTable? v
  else return none

/-- Write what can be read as a table into a table that a definition shows. -/
def extendTable (part : Section) (target v : Value) : Prog Unit := do
  let checked : Prog (Ref .dict) := do
    m.checkSection part v
    m.dictOf v
  match target, TableRef.ofValue? target with
  | .entries _, _ => noAttribute
  | _, some t => do m.update t (.own (← checked))
  | target, none => do
    let update ← m.read target "update"
    let _ ← m.call update (Arguments.ofList [.dict (← checked)])

/-- Write what can be read as a table into a section of an open builder. -/
def addMembers (b : Ref .builder) (part : Section) (v : Value) : Prog Unit := do
  let d ← m.callMember (.builder b) "_open" []
  match ← tableFor? b part v with
  | some t => m.act (.addMembers b part t)
  | none => m.extendTable part (← m.read d (sectionAttribute part)) v

/-- Name the parent class in an open builder. -/
def setParent (b : Ref .builder) (parent : Value) : Prog Unit := do
  if ← isUntouched b then m.act (.setParent b parent)
  else m.writeAttribute (← m.callMember (.builder b) "_open" []) (.text "parent") parent

end Machine

end ObjectModel.Script
