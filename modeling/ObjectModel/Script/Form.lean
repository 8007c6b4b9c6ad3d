import ObjectModel.Script.Expr

/-!
# Written form of expressions

Expressions are written as nested lists whose first item names the operation; anything that is
not a list stands for itself. Answers are written in the same kind of tree, which for them also
has records.
-/

namespace ObjectModel.Script

inductive Form where
  | null
  | bool (b : Bool)
  | int (n : Int)
  | text (s : String)
  | list (items : List Form)
  | record (fields : List (String × Form))

instance : Inhabited Form := ⟨.null⟩

mutual

/-- How deep a tree is. -/
def Form.depth : Form → Nat
  | .list items => depthOfItems items + 1
  | .record fields => depthOfFields fields + 1
  | _ => 1

def depthOfItems : List Form → Nat
  | [] => 0
  | f :: rest => max f.depth (depthOfItems rest)

def depthOfFields : List (String × Form) → Nat
  | [] => 0
  | (_, f) :: rest => max f.depth (depthOfFields rest)

end

/-- The operations that are written as their name and their operands. -/
def Operation.named : List (String × Operation) :=
  [("list", .list), ("push", .push), ("get", .get), ("put", .put), ("del", .del), ("has", .has),
   ("getor", .getOr), ("is", .same), ("len", .length), ("bool", .truth), ("str", .str),
   ("repr", .repr), ("format", .format), ("in", .contained), ("item", .item),
   ("setitem", .setItem), ("delitem", .delItem), ("iter", .iter), ("next", .next),
   ("index", .index), ("toint", .toInt), ("int", .toInt), ("hash", .hash),
   ("hashable", .hashable), ("callable", .callable), ("collect", .collect), ("type", .typeName),
   ("catalog", .newCatalog), ("default_catalog", .defaultCatalog), ("class_", .openClass),
   ("import_", .importClass), ("define", .define), ("lookup", .lookup), ("lineage", .lineage),
   ("names", .names), ("commit", .commit), ("extends", .extend), ("static", .members .statics),
   ("private", .members .privates), ("public", .members .publics),
   ("operators", .members .operators), ("b.extends", .builderExtends),
   ("b.static", .builderMembers .statics), ("b.private", .builderMembers .privates),
   ("b.public", .builderMembers .publics), ("b.operators", .builderMembers .operators),
   ("b.apply", .builderApply), ("b.finalize", .builderFinalize),
   ("b.definition", .builderDefinition), ("b.finalized", .builderFinalized), ("d.kind", .kind),
   ("d.is_private", .isPrivate), ("d.is_public", .isPublic), ("d.is_static", .isStatic),
   ("d.method", .method), ("d.tables", .tables), ("base", .base), ("layers", .layers),
   ("definition_of", .definitionOf), ("show_warnings", .showWarnings),
   ("allow_writing", .allowWriting), ("settings", .settings), ("warn", .warn),
   ("greeters", .greeters), ("demo", .demo)]

def Operation.ofName? (name : String) : Option Operation := Operation.named.lookup name

/-- The operations whose first operand is the symbol of an operator. -/
def Operation.ofSymbol? (name symbol : String) : Option Operation :=
  match name with
  | "bin" => (BinaryOp.ofSymbol? symbol).map .binary
  | "aug" => (BinaryOp.ofSymbol? symbol).map .inPlace
  | "cmp" => (CompareOp.ofSymbol? symbol).map .compare
  | "un" => (UnaryOp.ofSymbol? symbol).map .unary
  | _ => none

/-- A parameter is a name, a name with a default, or a name behind one or two stars. -/
def Param.ofName (name : String) : Param :=
  match name.toList with
  | '*' :: '*' :: cs => .keywords (String.ofList cs)
  | '*' :: cs => .rest (String.ofList cs)
  | _ => .required name

namespace Expr

section Reading

variable (read : Form → Option Expr)

def readParam : Form → Option Param
  | .text p => some (Param.ofName p)
  | .list [.text p, e] => do return .optional p (← read e)
  | _ => none

/-- Named arguments come as pairs of a name and an expression, and may be left out. -/
def readNamed : List Form → Option (List (String × Expr))
  | [.list named] => named.mapM (fun
      | .list [.text x, e] => do return (x, ← read e)
      | _ => none)
  | [] | [.null] => some []
  | _ => none

def readEntry : Form → Option (Expr × Expr)
  | .list [k, v] => do return (← read k, ← read v)
  | _ => none

/-- Operations with a form of their own. -/
def readControl (name : String) (operands : List Form) : Option Expr :=
  match name with
  | "var" => match operands with
    | [.text x] => some (.var x)
    | _ => none
  | "notimpl" => some .notImplemented
  | "let" => match operands with
    | [.text x, e] => do return .bind x (← read e)
    | _ => none
  | "seq" => do return .seq (← operands.mapM read)
  | "if" => match operands with
    | [c, a, b] => do return .ite (← read c) (← read a) (← read b)
    | _ => none
  | "not" => match operands with
    | [e] => do return .not (← read e)
    | _ => none
  | "fn" => match operands with
    | [.list ps, body] => do return .fn (← ps.mapM (readParam read)) (← read body)
    | _ => none
  | "call" => match operands with
    | f :: .list args :: named => do
      return .call (← read f) (← args.mapM read) (← readNamed read named)
    | _ => none
  | "send" => match operands with
    | target :: key :: .list args :: named => do
      return .send (← read target) (← read key) (← args.mapM read) (← readNamed read named)
    | _ => none
  | "try" => match operands with
    | [body, .text kind, .text x, handler] => do
      return .attempt (← read body) (← ErrorKind.ofName? kind) x (← read handler)
    | _ => none
  | "raise" => match operands with
    | [.text kind, e] => do return .raise (← ErrorKind.ofName? kind) (← read e)
    | _ => none
  | "print" => do return .print (← operands.mapM read)
  | "with" => match operands with
    | [context, .text x, body] => do return .within (← read context) x (← read body)
    | _ => none
  | "dict" => do return .dict (← operands.mapM (readEntry read))
  | "declare" => match operands with
    | name :: catalog :: items => do
      return .declare (← read name) (← read catalog) (← items.mapM read)
    | _ => none
  | _ => none

/-- Operations that are written as a name and operands, some with a symbol in between. -/
def readApplied (name : String) (operands : List Form) : Option Expr :=
  match operands with
  | .text symbol :: others =>
    match Operation.ofSymbol? name symbol with
    | some op => do return .apply op (← others.mapM read)
    | none => do return .apply (← Operation.ofName? name) (← operands.mapM read)
  | _ => do return .apply (← Operation.ofName? name) (← operands.mapM read)

end Reading

/-- Read an expression from a tree of at most the given depth. -/
def readWithin : Nat → Form → Option Expr
  | 0, _ => none
  | _ + 1, .null => some .null
  | _ + 1, .bool b => some (.bool b)
  | _ + 1, .int n => some (.int n)
  | _ + 1, .text s => some (.text s)
  | n + 1, .list (.text name :: operands) =>
    match readApplied (readWithin n) name operands with
    | some e => some e
    | none => readControl (readWithin n) name operands
  | _ + 1, _ => none

def read (f : Form) : Option Expr := readWithin f.depth f

end Expr

end ObjectModel.Script
