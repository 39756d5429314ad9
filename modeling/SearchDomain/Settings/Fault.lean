import SearchDomain.Text.Quoted
/-!
# Fault — why a program's settings are refused
-/
namespace SearchDomain.Settings

/-- A required variable is missing or blank, or a variable has a value that it cannot have. -/
inductive Fault
  | missing (name : String)
  | invalid (name value : String)
  deriving DecidableEq, Repr

namespace Fault

def message : Fault → String
  | missing name => name ++ " env var required"
  | invalid name value => name ++ " has an invalid value: " ++ value

/-- The line with which a program that cannot start ends. -/
def report : Fault → String
  | missing name => "Error: Missing(" ++ Text.quoted name ++ ")"
  | invalid name value =>
    "Error: Invalid \x7b var: " ++ Text.quoted name ++ ", value: " ++ Text.quoted value ++ " \x7d"

end Fault
end SearchDomain.Settings
