/-
# What an address says about a connection

The address of a database names, as it likes, a user, a password, a host, a port
and the database itself, all with percent signs for bytes that cannot stand as they
are, and parameters behind a question mark. The parameters are looked at in order,
behind all else, and the first fault counts; a parameter that nobody knows is noted
and changes nothing. A host that begins with a slash is the folder of a local
socket. Where the address says nothing, variables of the environment count.

Key definitions: `Options`, `Options.standard`, `OptionFault`, `Options.ofParts`,
`Options.socketPath?`.
-/
import UserAccounts.Net.Url
import UserAccounts.Settings.Lookup
import UserAccounts.Text.Quoted

namespace UserAccounts.Database

inductive OptionFault where
  | notText (defect : Utf8.Defect)
  | notANumber (fault : Text.DigitFault)
  | notAnAddress
  | unknownMode (value : String)
deriving DecidableEq, Repr

def OptionFault.message : OptionFault → String
  | .notText defect => defect.message
  | .notANumber fault => fault.message
  | .notAnAddress => "invalid IP address syntax"
  | .unknownMode value =>
    "error with configuration: unknown value " ++ Text.quoted value ++ " for `ssl_mode`"

def securityModes : List String :=
  ["disable", "allow", "prefer", "require", "verify-ca", "verify-full"]

def textParameters : List String :=
  ["sslrootcert", "ssl-root-cert", "ssl-ca", "sslcert", "ssl-cert", "sslkey", "ssl-key", "dbname",
    "user", "password", "application_name", "options"]

def variableStart : String := "options["

/-- What of an address decides whether a connection can come about. -/
structure Options where
  host : String := "localhost"
  /-- The folder of a local socket, which goes before the host. -/
  socket : Option String := none
  port : Nat := 5432
deriving DecidableEq, Repr

def isFolder (host : String) : Bool :=
  host.toList.head? = some '/'

/-- The keys under which an internet address, a host and a port are looked up. -/
def optionKeys : List String :=
  ["PGHOSTADDR", "PGHOST", "PGPORT"]

/-- The options where an address says nothing. A port that is no number does not count. -/
def Options.standard (lookup : Lookup) : Options :=
  let plain : Options := {}
  let port := (lookup "PGPORT").bind fun value =>
    (Text.readNatural (UInt16.size - 1) value.toList).toOption
  { plain with
    host := ((lookup "PGHOSTADDR").or (lookup "PGHOST")).getD plain.host
    port := port.getD plain.port }

/-- The text that a part of an address spells. -/
def partText (part : List Char) : Except OptionFault String :=
  (Utf8.decode (Net.Url.percentDecoded part)).mapError .notText

def parameterNumber (high : Nat) (value : String) : Except OptionFault Nat :=
  (Text.readNatural high value.toList).mapError .notANumber

def isKnownParameter (name : String) : Bool :=
  ["sslmode", "ssl-mode", "statement-cache-capacity", "host", "hostaddr", "port"].contains name ||
    textParameters.contains name || variableStart.toList.isPrefixOf name.toList

def Options.set (o : Options) (name value : String) : Except OptionFault Options :=
  if name = "sslmode" ∨ name = "ssl-mode" then
    if securityModes.contains (String.ofList (value.toList.map Char.toLower)) then .ok o
    else .error (.unknownMode value)
  else if name = "statement-cache-capacity" then
    (parameterNumber (UInt64.size - 1) value).map fun _ => o
  else if name = "host" then
    .ok (if isFolder value then { o with socket := some value } else { o with host := value })
  else if name = "hostaddr" then
    if (Net.Ip.ofText? value.toList).isSome then .ok { o with host := value }
    else .error .notAnAddress
  else if name = "port" then
    (parameterNumber (UInt16.size - 1) value).map fun port => { o with port }
  else .ok o

/-- Takes parameters into account, one after the other: those that nobody knows, up to the first
fault, and what they come to. -/
def Options.setAll (o : Options) :
    List (String × String) → List (String × String) × Except OptionFault Options
  | [] => ([], .ok o)
  | (name, value) :: more =>
    match o.set name value with
    | .error fault => ([], .error fault)
    | .ok o =>
      let (unknown, result) := o.setAll more
      (if isKnownParameter name then unknown else (name, value) :: unknown, result)

def Options.setHost (o : Options) (host : List Char) : Except OptionFault Options :=
  if host.isEmpty then .ok o
  else if (Net.Url.percentDecoded host).head? = some 0x2F then
    (partText host).map fun folder => { o with socket := some folder }
  else .ok { o with host := String.ofList host }

/-- The options that the parts before the parameters make. -/
def Options.ofPlace (standard : Options) (parts : Net.Url.Parts) : Except OptionFault Options := do
  let o ← standard.setHost parts.host
  let _ ← partText parts.user
  let _ ← partText parts.password
  let _ ← partText (parts.path.dropWhile (· == '/'))
  .ok { o with port := parts.port.getD o.port }

/-- The options that the parts of an address make, behind the parameters that nobody knows. -/
def Options.ofParts (standard : Options) (parts : Net.Url.Parts) :
    List (String × String) × Except OptionFault Options :=
  match standard.ofPlace parts with
  | .error fault => ([], .error fault)
  | .ok o => o.setAll (Net.Url.parameters parts.query)

def Options.socketPath? (o : Options) : Option String :=
  (o.socket.or (some o.host |>.filter isFolder)).map fun folder => s!"{folder}/.s.PGSQL.{o.port}"

end UserAccounts.Database
