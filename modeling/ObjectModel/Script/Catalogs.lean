import ObjectModel.Script.Sections

/-!
# Catalogs

Finding classes by name and resolving lineages. Names are texts as a rule; any other name is looked
up in the table of classes as any key would be. What a catalog was given in place of one of its
operations, or of its table of classes, takes effect in all others.
-/

namespace ObjectModel.Script.Machine

variable (m : Machine)

/-- Do an operation of a thing, unless the thing was given an attribute of that name. -/
def unlessGiven (v : Value) (name : String) (args : List Value) (own : Prog Value) :
    Prog Value := do
  if ← viewing (fun w => (w.givenTo v).contains name) then m.callMember v name args else own

/-- What is registered under a name. -/
def registered? (c : Ref .catalog) (name : Value) : Prog (Option Value) := do
  match ← m.holderFor (.catalog c) name with
  | .catalog c => seeing (fun h => ((h.importClass c name).toOption).map .cls)
  | classes => return some (← m.getItem classes name)

/-- The class registered under a name. A look-up that fails for want of a key finds nothing. -/
def findClass (c : Ref .catalog) (name : Value) : Prog Value := do
  let found ← tryCatch (m.registered? c name)
    (fun f => if f.isCatchable && f.kind.isA .keyError then return none else throw f)
  match found with
  | some cls => return cls
  | none => m.refuse (.undefinedClass name)

/-- As `findClass`, for a catalog that may have been altered. -/
def askForClass (c : Ref .catalog) (name : Value) : Prog Value :=
  m.unlessGiven (.catalog c) "import_class" [name] (m.findClass c name)

/-- The definition of the class registered under a name. -/
def lookup (c : Ref .catalog) (name : Value) : Prog Value := do
  slot (← m.askForClass c name) "_definition"

/-- The names of a chain, as a path. They have to be texts. -/
def pathText (names : List Value) : Prog String := do
  return " -> ".intercalate (← names.mapM hookText)

/-- Continue a lineage with the parent name `current`. The names seen so far are keys. -/
def climbFrom (c : Ref .catalog) (seen : Ref .dict) :
    Nat → Array Value → Value → Prog (Array Value)
  | 0, _, _ => throw .exhausted
  | steps + 1, chain, current => do
    if isSame current .null then return chain
    else if ← m.containsKey (.own seen) current then
      let names ← chain.toList.mapM (fun d => m.read d "name")
      m.refuse (.told .definitionError ("Circular inheritance: " ++ (← pathText names) ++ " -> "
        ++ (← m.spoken current)))
    else
      m.setItem (.own seen) current .null
      let parent ← m.unlessGiven (.catalog c) "lookup" [current] (m.lookup c current)
      climbFrom c seen steps (chain.push parent) (← m.read parent "parent")

/-- The definitions from one up to its root class, asking for every name and parent in turn. -/
def lineageByAsking (c : Ref .catalog) (definition : Value) : Prog (Array Value) := do
  let seen ← newDict .empty
  m.setItem (.own seen) (← m.read definition "name") .null
  m.climbFrom c seen loopBound #[definition] (← m.read definition "parent")

/-- Whether a catalog works as the model says: neither it nor one of its classes was altered, and
nothing stands in for the definitions of these. -/
def isPlainCatalog (c : Ref .catalog) : Prog Bool := do
  let classes ← seeing (fun h => (h.catalogs.get c).classes.entries.map (fun e =>
    classEntry h e.2))
  viewing (fun w => !w.isAltered (.catalog c)
    && classes.all (fun e => (w.standInFor? e).isNone && !w.isAltered (.cls e.cls)))

/-- Whether a definition is called, and extends, something that need not be asked what it is equal
to. -/
def isNamedPlainly (r : Definition) : Bool :=
  r.name.keyKind != .asked && r.parent.keyKind != .asked

def lineageIn (c : Ref .catalog) (definition : Value) : Prog (Array Value) := do
  match definition with
  | .definition d =>
    let isPlain ← seeing (fun h => isNamedPlainly (h.definition d))
    if isPlain && !(← isAltered definition) && (← isPlainCatalog c) then
      return ((← m.settled (← seeing (fun h => h.lineage c d))).map .definition).toArray
    else m.lineageByAsking c definition
  | _ => m.lineageByAsking c definition

/-- The names that are registered. -/
def names (c : Ref .catalog) : Prog Value := do
  match ← m.holder (.catalog c) with
  | .catalog c => newList ((← seeing (fun h => h.names c)).map .text).toArray
  | classes => return .list (← m.listOf classes)

/-- The catalog that is meant where one may be left out. -/
def catalogOr : Value → Value
  | .null => .catalog Heap.defaultCatalog
  | v => v

end ObjectModel.Script.Machine
