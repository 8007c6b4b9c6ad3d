import ObjectModel.Script.Classes
import ObjectModel.Script.Definitions

/-!
# Operations of the objects of the model

What catalogs, builders, declarations and definitions do when they are asked. An operation goes to
the object itself, unless the object was given an attribute of that name; any other value is asked
for an attribute of that name.
-/

namespace ObjectModel.Script.Machine

variable (m : Machine)

/-- Operations by receiver, name and arguments. -/
abbrev Operations := Value → String → List Value → Option (Prog Value)

/-- Do an operation if the receiver has it, and else call the attribute of that name. -/
def operate (own : Operations) (v : Value) (name : String) (args : List Value) : Prog Value := do
  match own v name args with
  | none => m.callMember v name args
  | some p => m.unlessGiven v name args p

def catalogOperations : Operations
  | .catalog c, "define", [name] => some (do return .builder (← ask (.openBuilder c name)))
  | .catalog c, "commit", [d] => some (do return .cls (← m.commit c d))
  | .catalog c, "import_class", [name] => some (m.findClass c name)
  | .catalog c, "lookup", [name] => some (m.lookup c name)
  | .catalog c, "lineage", [d] => some (do newList (← m.lineageIn c d))
  | .catalog c, "names", [] => some (m.names c)
  | _, _, _ => none

/-- The section that an operation of builders writes into. -/
def sectionNamed? (name : String) : Option Section :=
  [Section.statics, .privates, .publics, .operators].find? (fun part => part.name = name)

/-- The operations by which items are applied to a builder. -/
def itemOperations : Operations
  | .builder b, "extends", [parent] => some (do
      m.setParent b parent
      return .builder b)
  | .builder b, name, [table] => (sectionNamed? name).map (fun part => do
      m.addMembers b part table
      return .builder b)
  | _, _, _ => none

/-- The builder to which a declaration can be applied by the model alone. -/
def builderFor? (d : Ref .declaration) (builder : Value) : Prog (Option (Ref .builder)) := do
  match builder, ← seeing (fun h => h.declarations.get d) with
  | .builder b, .parent _ => return if ← isUntouched b then some b else none
  | .builder b, .members part _ => return (← tableFor? b part (.entries d)).map (fun _ => b)
  | _, _ => return none

/-- Apply a declaration to a builder. -/
def applyDeclaration (d : Ref .declaration) (builder : Value) : Prog Value := do
  match ← builderFor? d builder with
  | some b => m.explained (ObjectModel.applyDeclaration b d)
  | none =>
    let _ ← match ← seeing (fun h => h.declarations.get d) with
      | .parent name => m.operate m.itemOperations builder "extends" [name]
      | .members part _ => m.operate m.itemOperations builder part.name [.entries d]
  return .null

def declarationOperations : Operations
  | .declaration d, "apply", [builder] => some (m.applyDeclaration d builder)
  | _, _, _ => none

def applyItems (builder : Value) : List Value → Prog Unit
  | [] => return ()
  | item :: items => do
    let _ ← m.operate m.declarationOperations item "apply" [builder]
    applyItems builder items

/-- Close a builder. -/
def close (b : Ref .builder) : Prog Value := do
  if ← isUntouched b then
    m.act (.closeBuilder b)
    m.read (.builder b) "definition"
  else
    let definition ← m.callMember (.builder b) "_open" []
    givePlain (.builder b) "finalized" (.bool true)
    return definition

def finalize (b : Ref .builder) : Prog Value := do
  let definition ← m.close b
  let catalog ← m.read (.builder b) "catalog"
  m.operate m.catalogOperations catalog "commit" [definition]

def builderOperations : Operations
  | .builder b, "apply", items => some (do
      m.applyItems (.builder b) items
      return .builder b)
  | .builder b, "finalize", [] => some (m.finalize b)
  | .builder b, "_open", [] => some (m.openDefinition b)
  | v, name, args => m.itemOperations v name args

/-- Apply all items of a class body to a builder, and close it. -/
def build (builder : Value) (items : List Value) : Prog Value := do
  let applied ← m.operate m.builderOperations builder "apply" items
  m.operate m.builderOperations applied "finalize" []

def definitionOperations : Operations
  | .definition d, "is_private", [key] => some (do return .bool (← m.hasMember d .privates key))
  | .definition d, "is_public", [key] => some (do return .bool (← m.hasMember d .publics key))
  | .definition d, "is_static", [key] => some (do return .bool (← m.hasMember d .statics key))
  | .definition d, "kind_of", [key] => some (do return .memberKind (← m.kindOf d key))
  | .definition d, "method", [key] => some (m.methodOf d key)
  | _, _, _ => none

/-- All operations of the objects of the model. -/
def operations : Operations := fun v name args =>
  match v with
  | .catalog _ => m.catalogOperations v name args
  | .builder _ => m.builderOperations v name args
  | .definition _ => m.definitionOperations v name args
  | .declaration _ => m.declarationOperations v name args
  | _ => none

/-- Do an operation of an object of the model, or of whatever has an attribute of that name. -/
def perform (v : Value) (name : String) (args : List Value) : Prog Value :=
  m.operate m.operations v name args

/-- The names of the parameters of an operation, if all of its arguments have names. -/
def parametersOf (receiver : Value) (name : String) : Option (List String) :=
  match receiver, name with
  | .catalog _, "define" | .catalog _, "import_class" | .catalog _, "lookup" => some ["name"]
  | .catalog _, "commit" | .catalog _, "lineage" => some ["definition"]
  | .catalog _, "names" | .builder _, "finalize" | .builder _, "_open" => some []
  | .builder _, "extends" => some ["parent"]
  | .builder _, name => (sectionNamed? name).map (fun _ => ["table"])
  | .definition _, _ => some ["key"]
  | .declaration _, _ => some ["builder"]
  | _, _ => none

/-- The arguments in the order of the parameters, if they fit. -/
def fitArguments? (params : List String) (args : Arguments) : Option (List Value) :=
  if args.positional.length + args.named.size ≠ params.length then none
  else
    match (params.drop args.positional.length).mapM args.named.find? with
    | some named => some (args.positional ++ named)
    | none => none

/-- Call an operation that was read from an object of the model. -/
def callOperation (receiver : Value) (name : String) (args : Arguments) : Prog Value :=
  let fitting? := match receiver, name with
    | .builder _, "apply" => if args.named.size = 0 then some args.positional else none
    | receiver, name => (parametersOf receiver name).bind (fitArguments? · args)
  match fitting?.bind (m.operations receiver name) with
  | some p => p
  | none => wrongType

end ObjectModel.Script.Machine
