/-
# Access to a database

A database is reached by an address whose scheme is `postgres` or `postgresql`.
`Site` is a server and the address at which it is to be found; at any other address
nobody answers, and there are no local sockets.

Key definitions: `Site`, `Reach`, `Unreached`, `Attempt`, `connect`.
-/
import UserAccounts.Database.Migration
import UserAccounts.Database.Options

namespace UserAccounts.Database

/-- A server and the address at which it is to be found. -/
structure Site where
  address : String
  server : Server
deriving DecidableEq, Repr

/-- What can be reached: at most one server; and the options where an address says nothing. -/
structure Reach where
  site : Option Site := none
  standard : Options := {}
deriving DecidableEq, Repr

def Reach.server? (reach : Reach) : Option Server :=
  reach.site.map (·.server)

def isOwnScheme (scheme : String) : Bool :=
  scheme == "postgres" || scheme == "postgresql"

inductive Unreached where
  | malformed (address : String)
  | foreign (address : String)
  | badOption (fault : OptionFault)
  | zeroInPath
  | longPath
  | noSocket
  | noAnswer
deriving DecidableEq, Repr

def Unreached.message : Unreached → String
  | .malformed address => s!"The connection string '{address}' cannot be parsed."
  | .foreign address => s!"The connection string '{address}' has no supporting driver."
  | .badOption fault => s!"error with configuration: {fault.message}"
  | .zeroInPath =>
    "error communicating with database: paths must not contain interior null bytes"
  | .longPath => "error communicating with database: path must be shorter than SUN_LEN"
  | .noSocket => "error communicating with database: No such file or directory (os error 2)"
  | .noAnswer => "pool timed out while waiting for an open connection"

structure Attempt where
  /-- The parameters of the address that nobody knows. -/
  unknown : List (String × String) := []
  result : Except Unreached Server

/-- A path of a socket has fewer bytes than this. -/
def socketPathLimit : Nat := 108

def unreachedSocket (path : String) : Unreached :=
  if path.toList.contains '\x00' then .zeroInPath
  else if socketPathLimit ≤ path.utf8ByteSize then .longPath
  else .noSocket

def connect (reach : Reach) (address : String) : Attempt :=
  match Net.Url.wellFormed? address with
  | none => { result := .error (.malformed address) }
  | some (scheme, rest) =>
    if !isOwnScheme scheme then { result := .error (.foreign address) }
    else
      match reach.standard.ofParts (.ofText rest) with
      | (unknown, .error fault) => { unknown, result := .error (.badOption fault) }
      | (unknown, .ok options) =>
        match reach.site.filter fun site => site.address == address with
        | some site => { unknown, result := .ok site.server }
        | none =>
          match options.socketPath? with
          | some path => { unknown, result := .error (unreachedSocket path) }
          | none => { unknown, result := .error .noAnswer }

/-- The fault that an attempt ends in is one of the connection. -/
def Attempt.server (attempt : Attempt) : Except Fault Server :=
  attempt.result.mapError fun reason => .connection reason.message

end UserAccounts.Database
