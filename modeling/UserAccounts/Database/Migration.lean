/-
# Migrations

A migration makes a table, and is undone by removing it. Applying all migrations
that are pending, or undoing the last that was applied, is one transaction: what
it sends and reports is a list of steps, and if a step fails the database stays
as it was. A log with a migration that does not exist is not touched.

Key definitions: `Migration`, `migrations`, `Step`, `perform`, `applyPending`,
`undoLast`, `status`, `rebuild`.
-/
import UserAccounts.Database.Server

namespace UserAccounts.Database

structure Migration where
  name : String
  table : Sql.Table
deriving DecidableEq, Repr

/-- The migrations, in the order in which they are applied. -/
def migrations : List Migration :=
  [{ name := "m20260118_000001_create_users_table", table := Sql.usersDefinition }]

inductive Note where
  | applyingAll
  | nothingPending
  | applying (migration : String)
  | applied (migration : String)
  | undoingLast (count : Nat)
  | nothingApplied
  | undoing (migration : String)
  | undone (migration : String)
deriving DecidableEq, Repr

def Note.message : Note → String
  | .applyingAll => "Applying all pending migrations"
  | .nothingPending => "No pending migrations"
  | .applying migration => s!"Applying migration '{migration}'"
  | .applied migration => s!"Migration '{migration}' has been applied"
  | .undoingLast count => s!"Rolling back {count} applied migrations"
  | .nothingApplied => "No applied migrations"
  | .undoing migration => s!"Rolling back migration '{migration}'"
  | .undone migration => s!"Migration '{migration}' has been rollbacked"

/-! ### Steps -/

/-- A step in migrating: a report or a statement. -/
inductive Step where
  | report (note : Note)
  | send (command : Command)
deriving DecidableEq, Repr

/-- What was reported, and the database that came out or why none did. -/
structure Report where
  notes : List Note
  result : Except Fault Contents

/-- Takes steps one after another, up to the first statement that fails. -/
def perform (server : Server) : List Step → Contents → Report
  | [], draft => ⟨[], .ok draft⟩
  | .report note :: steps, draft =>
    let report := perform server steps draft
    { report with notes := note :: report.notes }
  | .send command :: steps, draft =>
    match server.send command draft with
    | .error fault => ⟨[], .error fault⟩
    | .ok draft => perform server steps draft

/-- Goes on after a report, if it has a database. -/
def Report.andThen (report : Report) (next : Contents → Report) : Report :=
  match report.result with
  | .error fault => ⟨report.notes, .error fault⟩
  | .ok draft =>
    let rest := next draft
    { rest with notes := report.notes ++ rest.notes }

def Migration.applying (m : Migration) : List Step :=
  [.report (.applying m.name), .send (.create m.table), .report (.applied m.name),
    .send (.enter m.name)]

def Migration.undoing (m : Migration) : List Step :=
  [.report (.undoing m.name), .send (.drop m.table), .report (.undone m.name),
    .send (.erase m.name)]

/-! ### Whole migrations -/

def missingWords (name : String) : String :=
  s!"Migration file of version '{name}' is missing, this migration has been applied but its " ++
    "file is missing"

/-- The fault of a log with migrations that do not exist. -/
def unknownFault? (applied : List String) : Option Fault :=
  let unknown := applied.filter fun name => !(migrations.map (·.name)).contains name
  if unknown.isEmpty then none else some (.custom ("\n".intercalate (unknown.map missingWords)))

/-- One transaction: makes the log unless it is there, reports, reads the log, and does what
`chosen` makes of it. -/
def inTransaction (server : Server) (opening : Note) (chosen : List String → List Step) : Report :=
  let steps := [.send .start, .send (.create logTable), .report opening, .send (.readLog false)]
  (perform server steps server.contents).andThen fun draft =>
    match unknownFault? draft.applied with
    | some fault => ⟨[], .error fault⟩
    | none => perform server (chosen draft.applied ++ [.send .commit]) draft

def applyPending (server : Server) : Report :=
  inTransaction server .applyingAll fun applied =>
    match migrations.filter fun m => !applied.contains m.name with
    | [] => [.report .nothingPending]
    | pending => pending.flatMap Migration.applying

def undoLast (server : Server) : Report :=
  inTransaction server (.undoingLast 1) fun applied =>
    match (migrations.filter fun m => applied.contains m.name).getLast? with
    | none => [.report .nothingApplied]
    | some last => last.undoing

/-- Each migration, and whether it was applied. -/
def status (server : Server) : Except Fault (List (String × Bool)) :=
  (server.send (.readLog true) server.contents).map fun contents =>
    migrations.map fun m => (m.name, contents.applied.contains m.name)

/-- Makes the database anew, which is more than can be done: the fault that comes before that is
found out, if any. -/
def rebuild (server : Server) : Option Fault :=
  match (perform server [.send .start, .send (.create logTable)] server.contents).result with
  | .error fault => some fault
  | .ok _ => none

/-- The server after a report: it holds what came out, or what it held before. -/
def Server.after (server : Server) (report : Report) : Server :=
  match report.result with
  | .ok contents => { server with contents }
  | .error _ => server

end UserAccounts.Database
