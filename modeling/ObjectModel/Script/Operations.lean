import ObjectModel.Script.Arithmetic
import ObjectModel.Script.Faults
import ObjectModel.Script.Greeters
import ObjectModel.Script.Instances

/-!
# Operations

The meaning of the operations on evaluated operands, one rule for each.
-/

namespace ObjectModel.Script.Machine

variable (m : Machine)

def hashable (v : Value) : Prog Value :=
  tryCatch (do
      let _ ← m.code v
      return .bool true)
    (fun f => if f.isCatchable && f.kind.isA .typeError then return .bool false else throw f)

/-- Add a value to the end of a list. -/
def push (v item : Value) : Prog Value := do
  match v with
  | .list r => do
    changeList r (fun items => items.push item)
    return .null
  | _ => m.callMember v "append" [item]

/-- Give a warning, if warnings are on. Making its text may turn them off, but only for later. -/
def warn (message : Value) : Prog Unit := do
  if (← ask .settings).warnings then ask (.note (.warning (← m.str message))) else return ()

/-- An action that gives nothing. -/
def doing (p : Prog Unit) : Prog Value := do
  p
  return .null

/-- Apply an operation to its operands. -/
def applyOperation (op : Operation) (operands : List Value) : Prog Value := do
  match op, operands with
  | .list, vs => newList vs.toArray
  | .push, [v, item] => m.push v item
  | .get, [v, key] => m.readAttribute v key
  | .put, [v, key, new] => doing (m.writeAttribute v key new)
  | .del, [v, key] => doing (m.deleteAttribute v key)
  | .has, [v, key] => return .bool (← m.hasAttribute v key)
  | .getOr, [v, key, other] => orIfMissing (m.readAttribute v key) (return other)
  | .binary op, [v, w] => m.binary op v w
  | .inPlace op, [v, w] => m.inPlace op v w
  | .compare op, [v, w] => m.compare op v w
  | .unary op, [v] => m.unary op v
  | .length, [v] => return .int (← m.length v)
  | .truth, [v] => return .bool (← m.truth v)
  | .str, [v] => return .text (← m.str v)
  | .repr, [v] => return .text (← m.repr v)
  | .format, [v, spec] => return .text (← m.formatted v spec)
  | .contained, [v, container] => return .bool (← m.contained v container)
  | .item, [v, i] => m.getItem v i
  | .setItem, [v, i, new] => m.putItem v i new
  | .delItem, [v, i] => m.dropItem v i
  | .iter, [v] => m.iter v
  | .next, [v] => m.next v
  | .index, [v] => return .int (← m.index v)
  | .toInt, [v] => return .int (← m.toInt v)
  | .hash, [v] => return .int (← m.code v)
  | .hashable, [v] => m.hashable v
  | .callable, [v] => return .bool (← seeing (fun h => h.callable v))
  | .collect, [v] => newList (← m.items v)
  | .typeName, [v] => return .text (← typeName v)
  | .newCatalog, [] => return .catalog (← ask .newCatalog)
  | .defaultCatalog, [] => return .catalog Heap.defaultCatalog
  | .openClass, [name] => m.perform (.catalog Heap.defaultCatalog) "define" [name]
  | .openClass, [name, catalog] => m.perform (catalogOr catalog) "define" [name]
  | .importClass, [name] => m.perform (.catalog Heap.defaultCatalog) "import_class" [name]
  | .importClass, [name, catalog] => m.perform (catalogOr catalog) "import_class" [name]
  | .define, [catalog, name] => m.perform catalog "define" [name]
  | .lookup, [catalog, name] => m.perform catalog "lookup" [name]
  | .lineage, [catalog, definition] => m.perform catalog "lineage" [definition]
  | .names, [catalog] => m.perform catalog "names" []
  | .commit, [catalog, definition] => m.perform catalog "commit" [definition]
  | .extend, [parent] => return .declaration (← ask (.declare (.parent parent)))
  | .members part, [table] => m.declareMembers part table
  | .builderExtends, [b, parent] => m.perform b "extends" [parent]
  | .builderMembers part, [b, table] => m.perform b part.name [table]
  | .builderApply, b :: items => m.perform b "apply" items
  | .builderFinalize, [b] => m.perform b "finalize" []
  | .builderDefinition, [b] => m.read b "definition"
  | .builderFinalized, [b] => m.read b "finalized"
  | .kind, [d, key] => do m.read (← m.perform d "kind_of" [key]) "name"
  | .isPrivate, [d, key] => m.perform d "is_private" [key]
  | .isPublic, [d, key] => m.perform d "is_public" [key]
  | .isStatic, [d, key] => m.perform d "is_static" [key]
  | .method, [d, key] => m.perform d "method" [key]
  | .tables, [d] => m.tables d
  | .base, [v] => m.base v
  | .layers, [v] => layers v
  | .definitionOf, [v] => definitionOf v
  | .showWarnings, [v] => doing (do ask (.setWarnings (← m.truth v)))
  | .allowWriting, [v] => doing (do ask (.setAllowWriting (← m.truth v)))
  | .settings, [] => do
    let s ← ask .settings
    newList #[.bool s.warnings, .bool s.allowWriting]
  | .warn, [v] => doing (m.warn v)
  | .greeters, [catalog] => m.defineGreeters catalog
  | .demo, [v] => doing (m.runDemo (m.truth v))
  | _, _ => wrongType

end ObjectModel.Script.Machine
