import ObjectModel.Script.Items
import ObjectModel.Script.Texts

/-!
# Stand-ins for definitions

A catalog registers whatever has the attributes of a definition. A class that was made from such a
stand-in asks it anew each time it needs its name, its parent, its tables or the kind of a member,
and so do the instances of the class. A definition stands in for itself if it was altered, or if
it is named by values that have to be asked. The rules of access are those of the model. What is
stored on an instance stays in the record of the instance, unless that record takes its name for a
static member; then it is a stray, which only those see who ask.
-/

namespace ObjectModel.Script

/-- A member that was read as a value. -/
def ofReading : Reading → Prog Value
  | .method f s => newMethod ⟨.state s, .function f⟩
  | .value v => return v

namespace Machine

variable (m : Machine)

/-- Whether a key is in a table that is read from a stand-in. -/
def isAmongStatics (d : Value) (key : String) : Prog Bool := do
  m.contained (.text key) (← m.read d "statics")

def readStatic (d : Value) (key : String) : Prog Value := do
  m.getItem (← m.read d "statics") (.text key)

def writeStatic (d : Value) (key : String) (v : Value) : Prog Unit := do
  let _ ← m.putItem (← m.read d "statics") (.text key) v

/-- Ask a definition, or what stands in for it, whether a key is of some kind. -/
def asksMember (d : Value) (question key : String) : Prog Bool := do
  m.truth (← m.callMember d question [.text key])

/-- What a class object still has of what it was made with. -/
def keptSlot? (c : Ref .cls) (key : String) : Prog (Option Value) := do
  if ← hasLost (.cls c) key then return none
  else seeing (fun h => h.classAttribute? c key)

/-- Read on a class object. -/
def readClassOf (c : Ref .cls) (d : Value) (key : String) : Prog Value := do
  let statics ← m.read d "statics"
  if isSpecial key then noAttribute
  else if ← m.contained (.text key) statics then m.getItem statics (.text key)
  else if key = "definition" || key = "_definition" then return d
  else
    let missing : Prog Value := do m.refuse (.noStatic (← m.read d "name") key)
    if key = "name" then
      tryCatch (m.read d "name")
        (fun f => if f.isCatchable && f.kind.isA .attributeError then missing else throw f)
    else
      match ← keptSlot? c key with
      | some v => return v
      | none => missing

def writeClassOf (d : Value) (key : String) (v : Value) : Prog Unit := do
  if ← m.isAmongStatics d key then m.writeStatic d key v
  else do m.refuse (.notStatic key (← m.read d "name"))

/-- What is stored in a private state under a key, as those see it who ask. -/
def fieldOf? (s : Ref .state) (key : String) : Prog (Option Value) := do
  match ← viewing (fun w => w.stray? (.state s) key) with
  | some v => return some v
  | none => seeing (fun h => (h.fields s).find? key)

/-- Read from inside, where the definition is asked for the kind of the member. -/
def readPrivateOf (d : Value) (s : Ref .state) (key : String) : Prog Value := do
  match ← m.callMember d "kind_of" [.text key] with
  | .memberKind .privateMethod | .memberKind .publicMethod => do
    let f ← m.callMember d "method" [.text key]
    if ← seeing (fun h => h.callable f) then newMethod ⟨.state s, .function f⟩ else wrongType
  | .memberKind .static => m.readStatic d key
  | _ =>
    match ← fieldOf? s key with
    | some v => return v
    | none => do m.refuse (.noMember (← m.read d "name") key)

def readPrivate (s : Ref .state) (key : String) : Prog Value := do
  match ← standIn? (← seeing (fun h => h.stateClass s)) with
  | some _ => do m.readPrivateOf (← keptDefinition (.state s)) s key
  | none => do ofReading (← m.settled (← seeing (fun h => h.readPrivate s key)))

/-- Store a field whose name is not that of a static member. -/
def storeField (s : Ref .state) (key : String) (v : Value) : Prog Unit := do
  if ← seeing (fun h => (h.stateDefinition s).isStatic (.text key)) then
    poke (fun w => w.withStray (.state s) key v)
  else m.act (.writePrivate s key v)

def writePrivate (s : Ref .state) (key : String) (v : Value) : Prog Unit := do
  match ← standIn? (← seeing (fun h => h.stateClass s)) with
  | some _ => do
    let d ← keptDefinition (.state s)
    if key = parentHandle then m.refuse (.parentAssigned (← m.read d "name"))
    else if ← m.asksMember d "is_static" key then m.writeStatic d key v
    else m.storeField s key v
  | none => m.act (.writePrivate s key v)

/-- Remove a stray, and tell whether there was one. -/
def dropStray (v : Value) (key : String) : Prog Bool := do
  let found ← viewing (fun w => (w.stray? v key).isSome)
  poke (fun w => if found then w.withoutStray v key else w)
  return found

def deletePrivate (s : Ref .state) (key : String) : Prog Unit := do
  let isStray ← dropStray (.state s) key
  if key = parentHandle || (← seeing (fun h => (h.fields s).contains key)) then
    m.act (.deletePrivate s key)
  else if isStray then return ()
  else m.refuse (.noField (← m.read (← keptDefinition (.state s)) "name") key)

/-- The definition behind a facade, or what stands in for it. -/
def facadeDefinition (f : Ref .facade) : Prog Value := do
  keptDefinition (.state (← seeing (fun h => h.facadeState f)))

/-- Whether some of the given levels have to be asked. -/
def haveToAsk (levels : List (Ref .facade)) : Prog Bool := do
  let classes ← seeing (fun h => levels.map (fun f => classEntry h (h.facadeClass f)))
  viewing (fun w => classes.any (fun e => (w.standInFor? e).isSome)
    || levels.any (fun f => w.hasStrays (.facade f)))

/-- What was written onto a facade under a key, as those see it who ask. -/
def externalOf? (f : Ref .facade) (key : String) : Prog (Option Value) := do
  match ← viewing (fun w => w.stray? (.facade f) key) with
  | some v => return some v
  | none => seeing (fun h => (h.external f).find? key)

/-- Whether some level declares a key public. -/
def inheritsPublic (key : String) : List (Ref .facade) → Prog Bool
  | [] => return false
  | f :: above => do
    if ← m.asksMember (← facadeDefinition f) "is_public" key then return true
    else inheritsPublic key above

/-- Read from outside. What is inherited is read on the facade of the parent layer, as anyone would
read it there. -/
def readPublicByAsking (f : Ref .facade) (key : String) : Prog Value := do
  match ← externalOf? f key with
  | some v => return v
  | none => do
    let s ← seeing (fun h => h.facadeState f)
    let d ← keptDefinition (.state s)
    if ← m.asksMember d "is_private" key then m.refuse (.privateMember key)
    else if ← m.asksMember d "is_public" key then m.readPrivate s key
    else if ← m.asksMember d "is_static" key then m.readPrivate s key
    else
      match ← seeing (fun h => h.parentFacade f) with
      | none => m.refuse (.noPublicMember key)
      | some above => do
        if ← m.inheritsPublic key (← seeing (fun h => h.facadeLayers above)) then
          m.read (.facade above) key
        else m.refuse (.noPublicMember key)

def readPublic (f : Ref .facade) (key : String) : Prog Value := do
  if ← haveToAsk (← seeing (fun h => h.facadeLayers f)) then m.readPublicByAsking f key
  else ofReading (← m.settled (← seeing (fun h => h.readPublic f key)))

/-- Store a key that was written from outside. -/
def storeExternal (f : Ref .facade) (key : String) (v : Value) : Prog Unit := do
  if ← seeing (fun h => (h.facadeDefinition f).isStatic (.text key)) then
    poke (fun w => w.withStray (.facade f) key v)
    ask (.warn externalWriteWarning)
  else ask (.writePublic f key v)

/-- Write from outside under a key that was not written yet, where the definition is asked first.
Whether writing is allowed may depend on what it did when it was asked. -/
def writePublicByAsking (f : Ref .facade) (key : String) (v : Value) : Prog Unit := do
  let d ← facadeDefinition f
  if ← m.asksMember d "is_static" key then m.writeStatic d key v
  else if (← ask .settings).allowWriting then storeExternal f key v
  else ask (.note (.dropped (Text.quoted key) (← m.spoken (← m.read d "name"))))

def writePublic (f : Ref .facade) (key : String) (v : Value) : Prog Unit := do
  if ← viewing (fun w => (w.stray? (.facade f) key).isSome) then
    poke (fun w => w.withStray (.facade f) key v)
  else
    match ← standIn? (← seeing (fun h => h.facadeClass f)) with
    | none => ask (.writePublic f key v)
    | some _ =>
      if ← seeing (fun h => (h.external f).contains key) then ask (.writePublic f key v)
      else m.writePublicByAsking f key v

def deletePublic (f : Ref .facade) (key : String) : Prog Unit := do
  let isStray ← dropStray (.facade f) key
  if ← seeing (fun h => (h.external f).contains key) then m.act (.deletePublic f key)
  else if isStray then return ()
  else m.refuse (.undeletable key (← m.read (← facadeDefinition f) "name"))

def readClass (c : Ref .cls) (key : String) : Prog Value := do
  requireSlot (.cls c) "_definition"
  match ← standIn? c with
  | some d => m.readClassOf c d key
  | none => do
    let isStatic ← seeing (fun h => (h.classDefinition c).isStatic (.text key))
    if !isStatic && (← hasLost (.cls c) key) then
      m.refuse (.noStatic (← seeing (fun h => h.className c)) key)
    else m.settled (← seeing (fun h => h.readClass c key))

def writeClass (c : Ref .cls) (key : String) (v : Value) : Prog Unit := do
  requireSlot (.cls c) "_definition"
  match ← standIn? c with
  | some d => m.writeClassOf d key v
  | none => m.act (.writeClass c key v)

end Machine

end ObjectModel.Script
