import ObjectModel.Script.Catalogs

/-!
# Questions about definitions

What a key stands for in a definition, the method under a key, and all that a definition holds.
Texts are answered by the model, as long as it knows the definition; for other keys every table is
searched in turn, by code and comparison.
-/

namespace ObjectModel.Script.Machine

variable (m : Machine)

/-- The table of a section, as the definition shows it. -/
def sectionTable (d : Ref .definition) (part : Section) : Prog Value :=
  m.read (.definition d) (sectionAttribute part)

/-- The record of a definition, if it is all that there is to know about a name. -/
def recordFor? (d : Ref .definition) (key : Value) : Prog (Option (Definition × Key)) := do
  let r ← seeing (fun h => h.definition d)
  match key, ← isAltered (.definition d) with
  | .text s, false => return if isSimpleDefinition r then some (r, .text s) else none
  | _, _ => return none

/-- Whether a key is in a table of a definition. -/
def hasMember (d : Ref .definition) (part : Section) (key : Value) : Prog Bool := do
  match ← recordFor? d key with
  | some (r, key) => return (r.table part).contains key
  | none => m.contained key (← m.sectionTable d part)

/-- What a key stands for on the private side. -/
def kindOf (d : Ref .definition) (key : Value) : Prog MemberKind := do
  match ← recordFor? d key with
  | some (r, key) => return r.kindOf key
  | none =>
    if ← m.hasMember d .privates key then return .privateMethod
    else if ← m.hasMember d .publics key then return .publicMethod
    else if ← m.hasMember d .statics key then return .static
    else return .field

/-- The method under a key, private ones first. -/
def methodOf (d : Ref .definition) (key : Value) : Prog Value := do
  let part := if ← m.hasMember d .privates key then Section.privates else .publics
  m.getItem (← m.sectionTable d part) key

/-- All that a definition holds, as a dictionary. Of methods and hooks only the names are given. -/
def tables (definition : Value) : Prog Value := do
  let read (name : String) : Prog Value := m.read definition name
  let name ← read "name"
  let parent ← read "parent"
  let statics ← read "statics"
  let privates ← m.listOf (← read "private_methods")
  let publics ← m.listOf (← read "public_methods")
  let operators ← m.listOf (← read "operators")
  newPlainDict [("name", name), ("parent", parent), ("statics", statics),
    ("private", .list privates), ("public", .list publics), ("operators", .list operators)]

end ObjectModel.Script.Machine
