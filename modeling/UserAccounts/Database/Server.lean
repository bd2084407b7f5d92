/-
# A database server

A database as far as making and removing tables goes: the names of its tables and
types, and the log of the migrations that have been applied, itself a table. The
statements sent to it are those of `Command`; a server may refuse statements by
what stands in them (`Refusal`), as one does that is out of space or read-only.

Key definitions: `Contents`, `Command`, `Command.text`, `Server`, `Server.send`.
-/
import UserAccounts.Sql.Table

namespace UserAccounts.Database

/-- The table in which the applied migrations are logged. -/
def logTable : Sql.Table where
  name := "seaql_migrations"
  columns := [
    { name := "version", type := .text, demands := [.key] },
    { name := "applied_at", type := .integer }]

/-! ### What a database holds -/

/-- Puts a name into a sorted list, once. -/
def insertName (name : String) : List String → List String
  | [] => [name]
  | other :: rest =>
    if name < other then name :: other :: rest
    else if name = other then other :: rest
    else other :: insertName name rest

def sortedNames (names : List String) : List String :=
  names.foldr insertName []

/-- What a database holds: names in order, each once. -/
structure Contents where
  tables : List String := []
  types : List String := []
  applied : List String := []
deriving DecidableEq, Repr

/-- A database with these tables, types and applied migrations; migrations need a log. -/
def Contents.of (tables types applied : List String) : Contents where
  tables := sortedNames (if applied.isEmpty then tables else logTable.name :: tables)
  types := sortedNames types
  applied := sortedNames applied

/-! ### Statements -/

inductive Command where
  | start
  | commit
  | create (table : Sql.Table)
  | drop (table : Sql.Table)
  /-- Reads the log; the columns are named with their table or alone. -/
  | readLog (withTable : Bool)
  | enter (migration : String)
  | erase (migration : String)
  | probe
deriving DecidableEq, Repr

/-- The columns of the log, named with their table or alone. -/
def logColumns (withTable : Bool) : List String :=
  logTable.columns.map fun c =>
    if withTable then Sql.quotedName logTable.name ++ "." ++ Sql.quotedName c.name
    else Sql.quotedName c.name

def Command.text (command : Command) : String :=
  let log := Sql.quotedName logTable.name
  let key (withTable : Bool) := (logColumns withTable).headD ""
  match command with
  | .start => "BEGIN"
  | .commit => "COMMIT"
  | .create table => table.creation
  | .drop table => table.removal
  | .readLog withTable =>
    let columns := Sql.commaSeparated (logColumns withTable)
    s!"SELECT {columns} FROM {log} ORDER BY {key withTable} ASC"
  | .enter _ =>
    let columns := Sql.commaSeparated (logColumns false)
    let places := Sql.commaSeparated [Sql.place 1, Sql.place 2]
    s!"INSERT INTO {log} ({columns}) VALUES ({places}) RETURNING {key false}"
  | .erase _ => s!"DELETE FROM {log} WHERE {key false} = {Sql.place 1}"
  | .probe => "SELECT 1"

/-- The fault of a statement that fails in these words: one that asks for rows, or begins or ends a
transaction, is a query. -/
def Command.fault (command : Command) (words : String) : Fault :=
  let words := s!"error returned from database: {words}"
  match command with
  | .start | .commit | .readLog _ => .query words
  | .create _ | .drop _ | .enter _ | .erase _ | .probe => .execution words

/-- What a statement makes of a database, or why it cannot be done. -/
def Command.effect (command : Command) (c : Contents) : Except String Contents :=
  match command with
  | .start | .commit | .probe => .ok c
  | .create table => .ok { c with tables := insertName table.name c.tables }
  | .drop table =>
    if c.tables.contains table.name then .ok { c with tables := c.tables.erase table.name }
    else .error s!"table {Sql.quotedName table.name} does not exist"
  | .readLog _ =>
    if c.tables.contains logTable.name then .ok c
    else .error s!"relation {Sql.quotedName logTable.name} does not exist"
  | .enter migration => .ok { c with applied := insertName migration c.applied }
  | .erase migration => .ok { c with applied := c.applied.erase migration }

/-! ### Servers -/

structure Refusal where
  part : String
  words : String
deriving DecidableEq, Repr

/-- Whether some characters stand in a row in others. -/
def occursIn (part : List Char) : List Char → Bool
  | [] => part.isEmpty
  | c :: cs => part.isPrefixOf (c :: cs) || occursIn part cs

/-- A database that can be reached, and what it refuses. -/
structure Server where
  contents : Contents := {}
  refusals : List Refusal := []
deriving DecidableEq, Repr

def Server.send (server : Server) (command : Command) (draft : Contents) : Except Fault Contents :=
  let refusal? := server.refusals.find? fun r => occursIn r.part.toList command.text.toList
  match refusal? with
  | some refusal => .error (command.fault refusal.words)
  | none => (command.effect draft).mapError command.fault

def Server.probe (server : Server) : Except Fault Unit :=
  (server.send .probe server.contents).map fun _ => ()

end UserAccounts.Database
