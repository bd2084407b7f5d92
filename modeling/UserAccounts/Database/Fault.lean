/-
# Database faults

What can go wrong in talking to a database, each with the words that whoever did
not answer gave.

Key definitions: `Database.Fault`, `Database.Fault.message`.
-/

namespace UserAccounts.Database

inductive Fault where
  | custom (words : String)
  | connection (words : String)
  | execution (words : String)
  | query (words : String)
  | type (words : String)
  | json (words : String)
  | migration (words : String)
  | recordNotFound (words : String)
  | nothingInserted
  | attributeNotSet (words : String)
deriving DecidableEq, Repr

def Fault.message : Fault → String
  | .custom w => s!"Custom Error: {w}"
  | .connection w => s!"Connection Error: {w}"
  | .execution w => s!"Execution Error: {w}"
  | .query w => s!"Query Error: {w}"
  | .type w => s!"Type Error: {w}"
  | .json w => s!"Json Error: {w}"
  | .migration w => s!"Migration Error: {w}"
  | .recordNotFound w => s!"RecordNotFound Error: {w}"
  | .nothingInserted => "None of the records are inserted"
  | .attributeNotSet w => s!"Attribute {w} is NotSet"

end UserAccounts.Database
