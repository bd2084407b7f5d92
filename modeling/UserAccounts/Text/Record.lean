/-
# Values laid open

The text in which a value shows its parts, for logs and diagnoses: the name of
its type and the fields between braces, or the keys and values of a map. What is
secret is shown as `redacted`.

Key definitions: `record`, `mapping`, `redacted`.
-/
import UserAccounts.Text.Quoted

namespace UserAccounts.Text

/-- What stands for a secret. -/
def redacted : String :=
  quoted "[REDACTED]"

/-- A type's name and its fields, with the texts of their values. -/
def record (name : String) (fields : List (String × String)) : String :=
  name ++ " \x7b " ++ ", ".intercalate (fields.map fun f => f.1 ++ ": " ++ f.2) ++ " \x7d"

def mapping (entries : List (String × String)) : String :=
  "\x7b" ++ ", ".intercalate (entries.map fun e => quoted e.1 ++ ": " ++ quoted e.2) ++ "\x7d"

end UserAccounts.Text
