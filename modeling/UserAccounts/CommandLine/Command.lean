/-
# Commands

The commands of the program, each under the one it belongs to, and the switches
that each takes. Every command takes `--help`, and a command with others under it
has a topic `help` beside them.

Key definitions: `Command`, `Command.children`, `Switch`, `Command.switches`,
`Topic`.
-/

namespace UserAccounts.CommandLine

/-- A command: the program itself, or what stands behind its name. -/
inductive Command where
  | program
  | serve
  | migrate
  | up
  | down
  | status
  | fresh
deriving DecidableEq, Repr

inductive Switch where
  | host
  | port
  | inMemory
  | help
deriving DecidableEq, Repr

/-! ### Switches -/

namespace Switch

def name : Switch → String
  | .host => "host"
  | .port => "port"
  | .inMemory => "in-memory"
  | .help => "help"

/-- What stands for the value of a switch that takes one. -/
def placeholder? : Switch → Option String
  | .host => some "HOST"
  | .port => some "PORT"
  | .inMemory => none
  | .help => none

/-- A switch with its dashes and what stands for its value. -/
def label (s : Switch) : String :=
  "--" ++ s.name ++ (s.placeholder?.elim "" fun value => " <" ++ value ++ ">")

def about : Switch → String
  | .host => "Bind address (defaults to ACCOUNT_SERVICE_HOST or 0.0.0.0)"
  | .port => "Bind port (defaults to ACCOUNT_SERVICE_PORT or 3000)"
  | .inMemory => "Keep users in process memory instead of PostgreSQL"
  | .help => "Print help"

/-- The letter that may be written for a switch. -/
def letter? : Switch → Option Char
  | .help => some 'h'
  | _ => none

end Switch

/-! ### Commands -/

namespace Command

def name : Command → String
  | .program => "account-service"
  | .serve => "serve"
  | .migrate => "migrate"
  | .up => "up"
  | .down => "down"
  | .status => "status"
  | .fresh => "fresh"

def about : Command → String
  | .program => "User account microservice"
  | .serve => "Start the HTTP server"
  | .migrate => "Database migration commands"
  | .up => "Run pending migrations"
  | .down => "Rollback last migration"
  | .status => "Show migration status"
  | .fresh => "Reset database and run all migrations"

def children : Command → List Command
  | .program => [.serve, .migrate]
  | .migrate => [.up, .down, .status, .fresh]
  | _ => []

/-- A command with those it stands under. -/
def fullName : Command → String
  | .program => program.name
  | .serve => program.name ++ " " ++ serve.name
  | .migrate => program.name ++ " " ++ migrate.name
  | c => program.name ++ " " ++ migrate.name ++ " " ++ c.name

/-- The switches of a command, without `--help`. -/
def ownSwitches : Command → List Switch
  | .serve => [.host, .port, .inMemory]
  | _ => []

def switches (c : Command) : List Switch :=
  c.ownSwitches ++ [.help]

def child? (c : Command) (name : String) : Option Command :=
  c.children.find? (·.name == name)

def switch? (c : Command) (name : String) : Option Switch :=
  c.switches.find? (·.name == name)

def isGroup (c : Command) : Bool :=
  !c.children.isEmpty

end Command

/-! ### Topics -/

def helpName : String := "help"

def helpAbout : String := "Print this message or the help of the given subcommand(s)"

def Command.childNames (c : Command) : List String :=
  if c.isGroup then c.children.map (·.name) ++ [helpName] else []

/-- Something that help can be asked for: a command, or the topic `help` under one. -/
inductive Topic where
  | command (c : Command)
  | help (parent : Command)
deriving DecidableEq, Repr

def Topic.child? : Topic → String → Option Topic
  | .help _, _ => none
  | .command c, name =>
    if c.isGroup && name == helpName then some (.help c) else (c.child? name).map .command

end UserAccounts.CommandLine
