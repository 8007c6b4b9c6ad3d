/-!
# Log records

What the object model reports while it works. The text of a record is fixed when it is made.
-/

namespace ObjectModel

inductive LogRecord where
  /-- A class was registered, described as it was at that moment. -/
  | committed (description : String)
  | instantiated (name : String)
  /-- A write from outside was ignored; the key is quoted. -/
  | dropped (key cls : String)
  | warning (message : String)
  deriving DecidableEq

namespace LogRecord

def isWarning : LogRecord → Bool
  | .warning _ => true
  | _ => false

def level (r : LogRecord) : String := if r.isWarning then "WARNING" else "DEBUG"

/-- The part of the model that reports. -/
def source : LogRecord → String
  | .committed _ => "pypie.model.catalog"
  | .instantiated _ => "pypie.runtime.factory"
  | .dropped _ _ => "pypie.runtime.access"
  | .warning _ => "pypie.config"

def text : LogRecord → String
  | .committed description => "Committed " ++ description
  | .instantiated name => "Instantiated " ++ name
  | .dropped key cls => "Dropped external write of " ++ key ++ " on " ++ cls
  | .warning message => message

end LogRecord

/-- The warning that goes with every new key written from outside. -/
def externalWriteWarning : String :=
  "Setting keys for classes from outside is not intended. Objects will not be able to use new keys."

end ObjectModel
