import ObjectModel.Value

/-!
# How values are shown

Messages, descriptions and log lines name values. How a value is shown is the business of the
client that the values come from, and may take steps of its own, so the texts are asked for in the
client's monad.
-/

namespace ObjectModel

structure Display (m : Type → Type) where
  /-- The text that a value is. It is a fault if it is none. -/
  text : Value → m String
  /-- The text of a value inside a sentence. -/
  spoken : Value → m String
  /-- The text of a value inside a list, or quoted. -/
  repr : Value → m String
  typeName : Value → m String
  /-- Whether a value counts as true. -/
  truth : Value → m Bool
  /-- Put values in order, if they have one. -/
  sorted : List Value → m (List Value)

/-- Items between brackets, as a list is shown. -/
def bracketed (items : List String) : String := "[" ++ ", ".intercalate items ++ "]"

end ObjectModel
