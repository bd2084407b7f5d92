/-
# Starting up

What happens before the service answers requests, and what the commands for
migrations do. With a database, the service first reaches it and applies what is
pending; only then is the address looked at on which to listen.

Key definitions: `Storage`, `listenAddress`, `openDatabase`, `Course`, `serve`,
`MigrationAction`, `migrate`.
-/
import UserAccounts.Database.Access
import UserAccounts.Program.Event

namespace UserAccounts.Program

inductive Storage where
  | database
  | memory
deriving DecidableEq, Repr

inductive Ending where
  | listening (socket : Net.Socket)
  | done
  | stopped (obstacle : Obstacle)
  | crashed (words : String)
deriving DecidableEq, Repr

/-- What was reported and printed, how it went on, and what became of the database, if there is
one. -/
structure Course where
  events : List Event := []
  printed : List String := []
  ending : Ending
  server : Option Database.Server := none
deriving DecidableEq, Repr

/-- The address to listen on: host and port with a colon between them have to spell one. -/
def listenAddress (host : String) (port : UInt16) : Option Net.Socket :=
  Net.Socket.ofText? s!"{host}:{port}".toList

/-- The part of a start that has to do with the address: host and port given for this run go before
those that are set. -/
def listen (settings : ServiceSettings) (host? : Option String) (port? : Option UInt16) :
    List Event × Ending :=
  match listenAddress (host?.getD settings.host) (port?.getD settings.port) with
  | none => ([], .stopped .address)
  | some socket => ([.listening settings.serviceName socket], .listening socket)

def callDatabase (reach : Database.Reach) (address : String) :
    List Event × Except Database.Fault Database.Server :=
  let attempt := Database.connect reach address
  (attempt.unknown.map fun p => .unknownParameter p.1 p.2, attempt.server)

/-- Reaches a database and applies what is pending: what was reported, and the server as it is
then. -/
def openDatabase (reach : Database.Reach) (address : String) :
    List Event × Except Database.Fault Database.Server :=
  let (unknown, result) := callDatabase reach address
  match result with
  | .error fault => (unknown, .error fault)
  | .ok server =>
    let report := Database.applyPending server
    let notes := unknown ++ report.notes.map Event.migrating
    match report.result with
    | .error fault => (notes, .error fault)
    | .ok _ => (notes ++ [.databaseReady], .ok (server.after report))

def serve (service : ServiceSettings) (database : DatabaseSettings) (host? : Option String)
    (port? : Option UInt16) (storage : Storage) (reach : Database.Reach) : Course :=
  let (events, ending) := listen service host? port?
  match storage with
  | .memory => { events := .inMemory :: events, ending, server := reach.server? }
  | .database =>
    match openDatabase reach database.url with
    | (opening, .error fault) =>
      { events := opening, ending := .stopped (.database fault), server := reach.server? }
    | (opening, .ok server) => { events := opening ++ events, ending, server := some server }

/-! ### Migrations -/

inductive MigrationAction where
  | applyAll
  | undoLast
  | showStatus
  | rebuild
deriving DecidableEq, Repr

def statusLine (name : String) (applied : Bool) : String :=
  (if applied then "[x] " else "[ ] ") ++ name ++ "\n"

/-- The course of a report on a server, with events before it, and one at its end if all went
well. -/
def courseOf (before : List Event) (server : Database.Server) (report : Database.Report)
    (last : Event) : Course :=
  let notes := before ++ report.notes.map Event.migrating
  let server := some (server.after report)
  match report.result with
  | .error fault => { events := notes, ending := .stopped (.database fault), server }
  | .ok _ => { events := notes ++ [last], ending := .done, server }

def migrate (action : MigrationAction) (database : DatabaseSettings)
    (reach : Database.Reach) : Course :=
  let (unknown, result) := callDatabase reach database.url
  let untouched (ending : Ending) : Course :=
    { events := unknown, ending, server := reach.server? }
  match result with
  | .error fault => untouched (.stopped (.database fault))
  | .ok server =>
    match action with
    | .applyAll => courseOf unknown server (Database.applyPending server) .migrated
    | .undoLast => courseOf unknown server (Database.undoLast server) .lastUndone
    | .showStatus =>
      match Database.status server with
      | .error fault => untouched (.stopped (.database fault))
      | .ok entries =>
        { untouched .done with printed := entries.map fun e => statusLine e.1 e.2 }
    | .rebuild =>
      match Database.rebuild server with
      | some fault => untouched (.stopped (.database fault))
      | none => untouched (.crashed "Postgres feature is off")

end UserAccounts.Program
