/-
# Events of a run

What a run of the program reports, each with its weight and the part that reports
it, as one line. Characters that would steer a terminal are written as escapes.

Key definitions: `Event`, `Event.level`, `Event.source`, `Event.message`,
`Event.line`.
-/
import UserAccounts.Database.Migration
import UserAccounts.Net.Address
import UserAccounts.Settings.Basic

namespace UserAccounts.Program

inductive Obstacle where
  | database (fault : Database.Fault)
  /-- Host and port are no address. -/
  | address
deriving DecidableEq, Repr

def Obstacle.message : Obstacle → String
  | .database fault => fault.message
  | .address => "invalid socket address syntax"

inductive Event where
  | unknownParameter (name value : String)
  | migrating (note : Database.Note)
  | migrated
  | lastUndone
  | inMemory
  | databaseReady
  | listening (service : String) (socket : Net.Socket)
  | interrupted
  | badSettings (fault : SettingsFault)
  | stopped (obstacle : Obstacle)
deriving DecidableEq, Repr

inductive Level where
  | info
  | warning
  | error
deriving DecidableEq, Repr

def Level.word : Level → String
  | .info => "INFO"
  | .warning => "WARN"
  | .error => "ERROR"

namespace Event

def level : Event → Level
  | .inMemory | .unknownParameter _ _ => .warning
  | .badSettings _ | .stopped _ => .error
  | _ => .info

def source : Event → String
  | .unknownParameter _ _ => "sqlx_postgres::options::parse"
  | .migrating _ => "sea_orm_migration::migrator"
  | .databaseReady => "account_service_lib::infra::db"
  | .badSettings _ | .stopped _ => "account_service"
  | _ => "account_service_lib"

def message : Event → String
  | .unknownParameter _ _ => "ignoring unrecognized connect parameter"
  | .migrating note => note.message
  | .migrated => "Migrations applied successfully"
  | .lastUndone => "Rolled back last migration"
  | .inMemory => "Using in-memory storage; users are lost on shutdown"
  | .databaseReady => "Database connected and migrations applied"
  | .listening service socket => s!"{service} listening on {String.ofList socket.toText}"
  | .interrupted => "Shutdown signal received"
  | .badSettings fault => s!"Invalid configuration: {fault.message}"
  | .stopped obstacle => obstacle.message

/-- What an event tells beside its words, under names. -/
def fields : Event → List (String × String)
  | .unknownParameter name value => [("key", name), ("value", value)]
  | _ => []

def shownChar (c : Char) : List Char :=
  if c == '\x1b' || c == '\x07' || c == '\x08' || c == '\x0c' || c == '\x7f' then
    "\\x".toList ++ [Text.hexDigit (c.toNat / 16), Text.hexDigit (c.toNat % 16)]
  else if 0x80 ≤ c.toNat && c.toNat ≤ 0x9f then
    "\\u\x7b".toList ++ Text.hexLower c.toNat ++ ['}']
  else [c]

def line (event : Event) : String :=
  let shown := String.ofList (event.message.toList.flatMap shownChar)
  let fields := String.join (event.fields.map fun f => s!" {f.1}={f.2}")
  s!"{event.level.word} {event.source}: {shown}{fields}\n"

end Event

end UserAccounts.Program
