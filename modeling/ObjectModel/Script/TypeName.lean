import ObjectModel.Script.Machine

/-!
# Names of types

Every value has a type, and the types have names. The two views of the instances of a class have
types of their own, named after the class as it was called when it was made.
-/

namespace ObjectModel.Script

def cursorTypeName : Cursor → String
  | .list _ _ => "list_iterator"
  | .tuple _ _ => "tuple_iterator"
  | .text _ ascii => if ascii then "str_ascii_iterator" else "str_iterator"
  | .keys _ _ _ _ | .spoiled => "dict_keyiterator"
  | .items _ _ => "iterator"
  | .finished name => name

/-- The name of the type of a value. -/
def typeName (v : Value) : Prog String :=
  match v with
  | .null => return "NoneType"
  | .notImplemented => return "NotImplementedType"
  | .bool _ => return "bool"
  | .int _ => return "int"
  | .float _ _ => return "float"
  | .complex _ _ => return "complex"
  | .text _ => return "str"
  | .list _ => return "list"
  | .tuple _ => return "tuple"
  | .dict _ => return "dict"
  | .entries _ => return "mappingproxy"
  | .function _ => return "function"
  | .method _ => return "method"
  | .iterator r => viewing (fun w => cursorTypeName (w.iterators.get r))
  | .exception r => viewing (fun w => (w.exceptions.get r).kind.name)
  | .catalog _ => return "Catalog"
  | .builder _ => return "DefinitionBuilder"
  | .definition _ => return "ClassDefinition"
  | .declaration r => seeing (fun h =>
      match h.declarations.get r with
      | .parent _ => "Extends"
      | .members _ _ => "Declaration")
  | .cls _ => return "ClassObject"
  | .facade f => seeing (fun h => (h.classes.get (h.facadeClass f)).typeName)
  | .state s => seeing (fun h => (h.classes.get (h.stateClass s)).typeName ++ "State")
  | .memberKind _ => return "MemberKind"
  | .errorKind _ | .stateType _ | .facadeType _ => return "type"
  | .foreign name => return name

/-- The names of the operations that the objects of the model have as attributes. -/
def ownOperations : Value → List String
  | .catalog _ => ["define", "commit", "import_class", "lookup", "lineage", "names"]
  | .builder _ =>
    ["extends", "static", "private", "public", "operators", "apply", "finalize", "_open"]
  | .definition _ => ["is_private", "is_public", "is_static", "kind_of", "method"]
  | .declaration _ => ["apply"]
  | _ => []

end ObjectModel.Script
