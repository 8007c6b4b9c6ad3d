/-!
# Settings

Two switches: whether diagnostic warnings are given, and whether keys that a class does not know
may be written onto its instances from outside.
-/

namespace ObjectModel

structure Settings where
  warnings : Bool
  allowWriting : Bool
  deriving DecidableEq

namespace Settings

def default : Settings := ⟨true, false⟩

instance : Inhabited Settings := ⟨default⟩

/-- Settings from the variables of an environment. Warnings are on unless their variable is
exactly `0`; writing is allowed only if its variable is exactly `1`. -/
def fromEnvironment (value? : String → Option String) : Settings where
  warnings := (value? "PYPIE_WARNINGS").getD "1" != "0"
  allowWriting := (value? "PYPIE_ALLOW_WRITING").getD "0" == "1"

def flag (b : Bool) : String := if b then "True" else "False"

def describe (s : Settings) : String :=
  "Settings(warnings=" ++ flag s.warnings ++ ", allow_writing=" ++ flag s.allowWriting ++ ")"

end Settings

end ObjectModel
