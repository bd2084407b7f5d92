/-
# Statements

The two statements about users: one inserts a row and gives it back, the other
selects the row with an email address. A statement has a text with numbered
places and the values for them.

Key definitions: `Statement`, `Statement.text`, `Statement.values`.
-/
import UserAccounts.Sql.Row

namespace UserAccounts.Sql

inductive Value where
  | id (id : Id)
  | text (text : String)
  | bytes (bytes : Bytes)
  | instant (instant : Time.Instant)
  | integer (n : Int)
deriving DecidableEq, Repr

inductive Statement where
  | insert (row : Row)
  | selectByEmail (email : String)
deriving DecidableEq, Repr

def quotedName (name : String) : String :=
  "\"" ++ name ++ "\""

def usersTable : String := "users"

def columns : List String :=
  ["id", "email", "password_hash", "name", "status_code", "created_at"]

def commaSeparated (items : List String) : String :=
  ", ".intercalate items

def place (n : Nat) : String :=
  s!"${n}"

def Statement.text : Statement → String
  | .insert _ =>
    let names := commaSeparated (columns.map quotedName)
    let places := commaSeparated ((List.range columns.length).map fun i => place (i + 1))
    s!"INSERT INTO {quotedName usersTable} ({names}) VALUES ({places}) RETURNING {names}"
  | .selectByEmail _ =>
    let table := quotedName usersTable
    let column (name : String) := table ++ "." ++ quotedName name
    let names := commaSeparated (columns.map column)
    let email := column "email"
    s!"SELECT {names} FROM {table} WHERE {email} = {place 1} LIMIT {place 2}"

/-- The values of a row, in the order of the columns. -/
def Row.values (row : Row) : List Value :=
  [.id row.id, .text row.email, .bytes row.passwordHash, .text row.name, .text row.statusCode,
    .instant row.createdAt]

def Statement.values : Statement → List Value
  | .insert row => row.values
  | .selectByEmail email => [.text email, .integer 1]

end UserAccounts.Sql
