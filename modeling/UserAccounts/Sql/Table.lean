/-
# Tables

A table has a name and columns; a statement makes it, unless it is there, and
another removes it. The table of users is `usersDefinition`.

Key definitions: `Table`, `Table.creation`, `Table.removal`, `usersDefinition`.
-/
import UserAccounts.Sql.Statement

namespace UserAccounts.Sql

inductive ColumnType where
  | id
  | text
  | shortText (most : Nat)
  | bytes
  | instant
  | integer
deriving DecidableEq, Repr

def ColumnType.words : ColumnType → String
  | .id => "uuid"
  | .text => "varchar"
  | .shortText most => s!"varchar({most})"
  | .bytes => "bytea"
  | .instant => "timestamp with time zone"
  | .integer => "bigint"

/-- What is asked of the values in a column, beside that there is one. -/
inductive Demand where
  | key
  | unique
  /-- The value if none is given. -/
  | standard (value : String)
deriving DecidableEq, Repr

def Demand.words : Demand → String
  | .key => "PRIMARY KEY"
  | .unique => "UNIQUE"
  | .standard value => s!"DEFAULT '{value}'"

structure Column where
  name : String
  type : ColumnType
  demands : List Demand := []
deriving DecidableEq, Repr

def Column.words (c : Column) : String :=
  " ".intercalate ([quotedName c.name, c.type.words, "NOT NULL"] ++ c.demands.map Demand.words)

structure Table where
  name : String
  columns : List Column
deriving DecidableEq, Repr

/-- The statement that makes a table, unless it is there. -/
def Table.creation (t : Table) : String :=
  let columns := commaSeparated (t.columns.map Column.words)
  s!"CREATE TABLE IF NOT EXISTS {quotedName t.name} ( {columns} )"

def Table.removal (t : Table) : String :=
  s!"DROP TABLE {quotedName t.name}"

def usersDefinition : Table where
  name := usersTable
  columns := [
    { name := "id", type := .id, demands := [.key] },
    { name := "email", type := .text, demands := [.unique] },
    { name := "password_hash", type := .bytes },
    { name := "name", type := .text },
    { name := "status_code", type := .shortText 16, demands := [.standard Status.active.code] },
    { name := "created_at", type := .instant }]

example : usersDefinition.columns.map Column.name = columns := rfl

end UserAccounts.Sql
