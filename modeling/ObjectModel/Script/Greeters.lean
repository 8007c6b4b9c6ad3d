import ObjectModel.Script.Binding

/-!
# Greeters

Two example classes. A greeter has a public method that calls a private one. A person extends a
greeter, counts the persons in a static member, remembers a name, and overrides the greeting by
calling the parent's version first. The demonstration makes one greeter and two persons.
-/

namespace ObjectModel.Script

namespace Greeters

def self : Expr := .var "self"

def method (params : List String) (body : Expr) : Expr :=
  .fn (.required "self" :: params.map .required) body

/-- Print a text in front of a value, which must be a text as well. -/
def printAfter (lead : String) (e : Expr) : Expr :=
  .print [.apply (.binary .add) [.text lead, e]]

def greeterItems : List Expr :=
  [.apply (.members .publics) [.dict
    [(.text "say_hello",
      method ["name"] (.send self (.text "private_hello") [.var "name"] []))]],
   .apply (.members .privates) [.dict
    [(.text "private_hello", method ["name"] (printAfter "Hello " (.var "name")))]]]

def personItems : List Expr :=
  [.apply .extend [.text "Greeter"],
   .apply (.members .statics) [.dict [(.text "count", .int 0)]],
   .apply (.members .publics) [.dict
    [(.text "constructor", method ["name"] (.seq
        [.apply .put [self, .text "name", .var "name"],
         .apply .put [self, .text "count",
           .apply (.binary .add) [.apply .get [self, .text "count"], .int 1]],
         .null])),
     (.text "introduce", method [] (.send self (.text "private_intro") [] [])),
     (.text "say_hello", method ["name"] (.seq
        [.send (.apply .get [self, .text "super"]) (.text "say_hello") [.var "name"] [],
         .print [.text "Override hello"],
         .null]))]],
   .apply (.members .privates) [.dict
    [(.text "private_intro",
      method [] (printAfter "Hi! My name is " (.apply .get [self, .text "name"])))]]]

/-- Define a class in the catalog that the variable `catalog` names. -/
def classBody (name : String) (items : List Expr) : Expr :=
  .call (.send (.var "catalog") (.text "define") [.text name] []) items []

/-- Define both classes. -/
def definition : Expr :=
  .apply .list [classBody "Greeter" greeterItems, classBody "Person" personItems]

end Greeters

namespace Machine

variable (m : Machine)

/-- Evaluate an expression that speaks of one catalog. -/
def withCatalog (e : Expr) (catalog : Value) : Prog Value := do
  m.eval (← newFrame ⟨Table.empty.insert "catalog" catalog, none⟩) e

def defineGreeters (catalog : Value) : Prog Value := m.withCatalog Greeters.definition catalog

/-- The two classes of the demonstration. -/
def defineForDemo (catalog : Value) : Prog Value := do
  match ← viewing (fun w => w.greeters) with
  | some e => m.withCatalog e catalog
  | none => m.defineGreeters catalog

/-- Show a pair of classes at work, and write onto one of their instances from outside if that is
wanted. -/
def showGreeters (classes : Value) (wantsWriting : Prog Bool) : Prog Unit := do
  let (greeterClass, personClass) ← m.pairOf classes
  let greeter ← m.call greeterClass default
  let _ ← m.callMember greeter "say_hello" [.text "World"]
  let slim ← m.call personClass (Arguments.ofList [.text "Slim Shady"])
  let jimmy ← m.call personClass (Arguments.ofList [.text "Jimmy"])
  let _ ← m.callMember slim "introduce" []
  let _ ← m.callMember slim "say_hello" [.text "World"]
  let _ ← m.callMember jimmy "introduce" []
  let count ← m.spoken (← m.read personClass "count")
  m.printAll [.text ("Persons created: " ++ count)]
  if ← wantsWriting then
    m.writeAttribute slim (.text "nickname") (.text "Slim")
    let nickname ← m.spoken (← m.read slim "nickname")
    m.printAll [.text ("External key from outside: " ++ nickname)]

def runDemo (wantsWriting : Prog Bool) : Prog Unit := do
  let catalog := .catalog (← ask .newCatalog)
  m.showGreeters (← m.defineForDemo catalog) wantsWriting

end Machine

end ObjectModel.Script
