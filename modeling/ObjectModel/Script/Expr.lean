import ObjectModel.Fault

/-!
# Expressions

The language in which classes are used and in which the bodies of their methods are written.
Frames, functions, handlers and the like have forms of their own; every other operation takes
operands that are evaluated from left to right.
-/

namespace ObjectModel.Script

inductive BinaryOp where
  | add | sub | mul | truediv | floordiv | mod | pow | matmul
  | lshift | rshift | and | or | xor | divmod
  deriving DecidableEq

inductive UnaryOp where
  | neg | pos | invert | abs
  deriving DecidableEq

inductive CompareOp where
  | lt | le | eq | ne | gt | ge
  deriving DecidableEq

/-- The operations on evaluated operands. -/
inductive Operation where
  | list | push
  | get | put | del | has | getOr
  | binary (op : BinaryOp) | inPlace (op : BinaryOp) | compare (op : CompareOp)
  | unary (op : UnaryOp)
  | same | length | truth | str | repr | format | contained | item | setItem | delItem
  | iter | next | index | toInt | hash | hashable | callable | collect | typeName
  | newCatalog | defaultCatalog | openClass | importClass | define | lookup | lineage | names
  | commit
  | extend | members (part : Section)
  | builderExtends | builderMembers (part : Section) | builderApply | builderFinalize
  | builderDefinition | builderFinalized
  | kind | isPrivate | isPublic | isStatic | method | tables
  | base | layers | definitionOf
  | showWarnings | allowWriting | settings | warn | greeters | demo
  deriving DecidableEq

mutual

inductive Expr where
  | null
  | notImplemented
  | bool (b : Bool)
  | int (n : Int)
  | text (s : String)
  | var (name : String)
  /-- Bind a name in the current frame. -/
  | bind (name : String) (e : Expr)
  | seq (es : List Expr)
  | ite (cond yes no : Expr)
  | not (e : Expr)
  | fn (params : List Param) (body : Expr)
  | call (f : Expr) (args : List Expr) (named : List (String × Expr))
  /-- Call a member of `target`. It is read before the arguments are evaluated. -/
  | send (target key : Expr) (args : List Expr) (named : List (String × Expr))
  | attempt (body : Expr) (kind : ErrorKind) (name : String) (handler : Expr)
  | raise (kind : ErrorKind) (text : Expr)
  | print (es : List Expr)
  | within (context : Expr) (name : String) (body : Expr)
  | dict (entries : List (Expr × Expr))
  /-- Open a class, evaluate the items of its body, and build it. -/
  | declare (name catalog : Expr) (items : List Expr)
  | apply (op : Operation) (operands : List Expr)

inductive Param where
  | required (name : String)
  | optional (name : String) (default : Expr)
  /-- Takes the positional arguments that are left over. -/
  | rest (name : String)
  /-- Takes the named arguments that are left over. -/
  | keywords (name : String)

end

instance : Inhabited Expr := ⟨.null⟩

namespace BinaryOp

/-- The word for an operator in the names of its hooks. -/
def word : BinaryOp → String
  | .add => "add" | .sub => "sub" | .mul => "mul" | .truediv => "truediv"
  | .floordiv => "floordiv" | .mod => "mod" | .pow => "pow" | .matmul => "matmul"
  | .lshift => "lshift" | .rshift => "rshift" | .and => "and" | .or => "or" | .xor => "xor"
  | .divmod => "divmod"

def hook (op : BinaryOp) : String := "__" ++ op.word ++ "__"

/-- The hook of the right operand. -/
def reflectedHook (op : BinaryOp) : String := "__r" ++ op.word ++ "__"

def inPlaceHook (op : BinaryOp) : String := "__i" ++ op.word ++ "__"

def ofSymbol? : String → Option BinaryOp
  | "+" => some .add | "-" => some .sub | "*" => some .mul | "/" => some .truediv
  | "//" => some .floordiv | "%" => some .mod | "**" => some .pow | "@" => some .matmul
  | "<<" => some .lshift | ">>" => some .rshift | "&" => some .and | "|" => some .or
  | "^" => some .xor | "divmod" => some .divmod
  | _ => none

end BinaryOp

namespace UnaryOp

def hook : UnaryOp → String
  | .neg => "__neg__" | .pos => "__pos__" | .invert => "__invert__" | .abs => "__abs__"

def ofSymbol? : String → Option UnaryOp
  | "-" => some .neg | "+" => some .pos | "~" => some .invert | "abs" => some .abs
  | _ => none

end UnaryOp

namespace CompareOp

def hook : CompareOp → String
  | .lt => "__lt__" | .le => "__le__" | .eq => "__eq__" | .ne => "__ne__"
  | .gt => "__gt__" | .ge => "__ge__"

/-- The same comparison with its sides exchanged. -/
def mirror : CompareOp → CompareOp
  | .lt => .gt | .le => .ge | .eq => .eq | .ne => .ne | .gt => .lt | .ge => .le

def ofSymbol? : String → Option CompareOp
  | "<" => some .lt | "<=" => some .le | "==" => some .eq | "!=" => some .ne
  | ">" => some .gt | ">=" => some .ge
  | _ => none

/-- What a comparison says about two things that stand in the given order. -/
def holds (op : CompareOp) (o : Ordering) : Bool :=
  match op, o with
  | .lt, .lt | .le, .lt | .le, .eq | .eq, .eq | .ne, .lt | .ne, .gt | .gt, .gt | .ge, .gt
  | .ge, .eq => true
  | _, _ => false

end CompareOp

end ObjectModel.Script
