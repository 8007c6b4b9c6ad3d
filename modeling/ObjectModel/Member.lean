/-!
# Members

The parts of a class body that hold a table of members, and what a name can stand for on the
private side of a class.
-/

namespace ObjectModel

/-- The parts of a class body that hold a table of members. -/
inductive Section where
  | statics | privates | publics | operators
  deriving DecidableEq

def Section.name : Section → String
  | .statics => "static"
  | .privates => "private"
  | .publics => "public"
  | .operators => "operators"

/-- What a name stands for on the private side of a class. A field is not declared. -/
inductive MemberKind where
  | privateMethod | publicMethod | static | field
  deriving DecidableEq

namespace MemberKind

def name : MemberKind → String
  | .privateMethod => "PRIVATE"
  | .publicMethod => "PUBLIC"
  | .static => "STATIC"
  | .field => "FIELD"

def ofName? (s : String) : Option MemberKind :=
  [privateMethod, publicMethod, static, field].find? (fun k => k.name == s)

/-- The place of a kind in the order in which names are resolved. -/
def number : MemberKind → Nat
  | .privateMethod => 1
  | .publicMethod => 2
  | .static => 3
  | .field => 4

end MemberKind

end ObjectModel
