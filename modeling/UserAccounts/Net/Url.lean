/-
# Addresses with a scheme

The scheme of a text that is an address such as `scheme://user@host:port/path`.
Control characters and blanks at the ends do not count, nor do tabs and line
breaks anywhere. A text without a scheme is no such address, and neither is one
whose host or port is not well formed. A few schemes always have a host, which is
a name or an IPv4 address; for any other, what stands for the host is only kept
free of marks that mean something else. `Parts` takes such an address apart.

Key definitions: `Url.split?`, `Url.isAuthority`, `Url.isWellFormed`, `Url.wellFormed?`,
`Url.Parts`, `Url.parameters`.
-/
import UserAccounts.Host.Ascii
import UserAccounts.Net.Address
import UserAccounts.Text.Utf8

namespace UserAccounts.Net.Url

/-- What can be said of the host from the scheme alone. -/
inductive Kind where
  /-- There is a host, with or without slashes before it. -/
  | hosted
  /-- There may be a host. -/
  | file
  /-- There may be anything. -/
  | free
deriving DecidableEq, Repr

def Kind.ofScheme (scheme : List Char) : Kind :=
  if ["http", "https", "ws", "wss", "ftp"].contains (String.ofList scheme) then .hosted
  else if scheme = "file".toList then .file
  else .free

/-- A character that does not count at the ends. -/
def isEdge (c : Char) : Bool :=
  c.toNat ≤ 0x20

/-- A character that does not count anywhere. -/
def isBreak (c : Char) : Bool :=
  c == '\t' || c == '\n' || c == '\r'

def counted (cs : List Char) : List Char :=
  (((cs.dropWhile isEdge).reverse.dropWhile isEdge).reverse).filter fun c => !isBreak c

def isSchemeChar (c : Char) : Bool :=
  c.isAlphanum || c == '+' || c == '-' || c == '.'

/-- The scheme in small letters, and what stands behind its colon. -/
def split? (cs : List Char) : Option (List Char × List Char) :=
  let scheme := cs.takeWhile isSchemeChar
  match cs.drop scheme.length with
  | ':' :: rest =>
    if scheme.head?.any Char.isAlpha then some (scheme.map Char.toLower, rest) else none
  | _ => none

def endsAuthority (kind : Kind) (c : Char) : Bool :=
  c == '/' || c == '?' || c == '#' || (kind != .free && c == '\\')

/-! ### Hosts -/

def isForbidden (c : Char) : Bool :=
  "\x00\t\n\r #/:<>?@[\\]^|".toList.contains c

def isForbiddenInName (c : Char) : Bool :=
  isForbidden c || c.toNat < 0x20 || c == '%' || c.toNat == 0x7F

/-- The bytes of a text in which a byte may be written as a percent sign and two digits. -/
def percentDecoded : List Char → Bytes
  | [] => []
  | '%' :: a :: b :: rest =>
    match Text.hexValue? a, Text.hexValue? b with
    | some x, some y => UInt8.ofNat (x * 16 + y) :: percentDecoded rest
    | _, _ => String.utf8EncodeChar '%' ++ percentDecoded (a :: b :: rest)
  | c :: rest => String.utf8EncodeChar c ++ percentDecoded rest

/-- A number in base 8 behind a zero, in base 16 behind `0x`, or in base 10. -/
def number? (cs : List Char) : Option Nat :=
  let read (base : Nat) (digits : List Char) : Option Nat :=
    (whole (some (digitRun base digits))).map (numeral base)
  match cs with
  | [] => none
  | '0' :: 'x' :: digits => read 16 digits
  | '0' :: 'X' :: digits => read 16 digits
  | '0' :: digits => read 8 digits
  | digits => read 10 digits

/-- The parts between the dots; a dot at the end does not count. -/
def dotParts (name : List Char) : List (List Char) :=
  let parts := name.splitOn '.'
  if parts.getLast? == some [] && 1 < parts.length then parts.dropLast else parts

/-- Whether a name has to be read as an IPv4 address: its last part is a number. -/
def endsInNumber (name : List Char) : Bool :=
  match (dotParts name).getLast? with
  | none => false
  | some part => (!part.isEmpty && part.all Char.isDigit) || (number? part).isSome

/-- Whether a name is an IPv4 address of up to four numbers, the last of which fills what the others
leave of 32 bits. -/
def isV4Name (name : List Char) : Bool :=
  match (dotParts name).mapM number? with
  | none => false
  | some numbers =>
    numbers.length ≤ 4 && numbers.dropLast.all (· ≤ 255) &&
      (numbers.getLast?.any fun last => last < Nat.pow 256 (5 - numbers.length))

def isBracketedV6 (host : List Char) : Bool :=
  host.head? == some '[' && host.getLast? == some ']' && 1 < host.length &&
    (whole (readV6 (host.drop 1).dropLast)).isSome

def isNamedHost (host : List Char) : Bool :=
  if host.head? == some '[' then isBracketedV6 host
  else
    match Utf8.decode (percentDecoded host) with
    | .error _ => false
    | .ok name =>
      match Host.toAscii .unicode17 name.toList with
      | none => false
      | some name =>
        !name.isEmpty && !name.any isForbiddenInName && (!endsInNumber name || isV4Name name)

def isFreeHost (host : List Char) : Bool :=
  if host.head? == some '[' then isBracketedV6 host else !host.any isForbidden

/-! ### The part with the host -/

/-- The part up to the first colon outside brackets, and the rest. -/
def splitHost : Bool → List Char → List Char × List Char
  | _, [] => ([], [])
  | inside, c :: cs =>
    if c = ':' && !inside then ([], c :: cs)
    else
      let (host, rest) := splitHost (c = '[' || (inside && c != ']')) cs
      (c :: host, rest)

/-- Whether a text is nothing, or a colon and a port; the port may be left out, and ends at a
backslash too. -/
def isPortPart : List Char → Bool
  | [] => true
  | ':' :: port => (Text.digitsValue? (port.takeWhile (· != '\\')) 0).any (· ≤ 65535)
  | _ => false

/-- Whether a text is a host and a port, with who asks in front of an `@`. `more` says whether
anything follows. -/
def isAuthority (kind : Kind) (part : List Char) (more : Bool) : Bool :=
  let (asker, place) :=
    match part.reverse.span (· != '@') with
    | (_, []) => (none, part)
    | (behind, _ :: before) => (some before.reverse, behind.reverse)
  let (host, port) := splitHost false place
  if host.isEmpty then
    kind == .free && port.isEmpty &&
      (match asker with
        | none => true
        | some [] => !more
        | some asker => asker == [':'])
  else (if kind == .free then isFreeHost host else isNamedHost host) && isPortPart port

/-- Whether a text is a letter and a colon, or a letter and a bar. -/
def isDrive : List Char → Bool
  | [c, d] => c.isAlpha && (d == ':' || d == '|')
  | _ => false

def isWellFormed (kind : Kind) (rest : List Char) : Bool :=
  let authority (cs : List Char) : Bool :=
    let part := cs.takeWhile fun c => !endsAuthority kind c
    isAuthority kind part (part.length < cs.length)
  match kind, rest with
  | .hosted, rest => authority (rest.dropWhile fun c => c == '/' || c == '\\')
  | .file, a :: b :: rest =>
    let host := rest.takeWhile fun c => !endsAuthority .file c
    !((a == '/' || a == '\\') && (b == '/' || b == '\\')) || host.isEmpty || isDrive host ||
      isNamedHost host
  | .free, '/' :: '/' :: rest => authority rest
  | _, _ => true

/-- The scheme of an address and what stands behind its colon, if the text is an address. -/
def wellFormed? (address : String) : Option (String × List Char) :=
  match split? (counted address.toList) with
  | none => none
  | some (scheme, rest) =>
    if isWellFormed (.ofScheme scheme) rest then some (String.ofList scheme, rest) else none

/-! ### The parts of an address -/

/-- The parts of an address behind its scheme, as they are written; a part that is not there is
empty. -/
structure Parts where
  user : List Char := []
  password : List Char := []
  host : List Char := []
  port : Option Nat := none
  path : List Char := []
  query : List Char := []
deriving DecidableEq, Repr

def staysHere (step : List Char) : Bool :=
  [".", "%2e"].contains (String.ofList (step.map Char.toLower))

def leadsUp (step : List Char) : Bool :=
  ["..", ".%2e", "%2e.", "%2e%2e"].contains (String.ofList (step.map Char.toLower))

/-- Follows the steps of a path; `walked` holds those that count so far, last first. -/
def follow (walked : List (List Char)) : List (List Char) → List (List Char)
  | [] => walked.reverse
  | step :: steps =>
    let walked' := if leadsUp step then walked.drop 1 else walked
    if leadsUp step || staysHere step then
      if steps.isEmpty then ([] :: walked').reverse else follow walked' steps
    else follow (step :: walked') steps

/-- The path without steps that lead nowhere. -/
def plainPath (path : List Char) : List Char :=
  match path with
  | '/' :: steps => '/' :: ['/'].intercalate (follow [] (steps.splitOn '/'))
  | _ => path

def splitBefore (p : Char → Bool) (cs : List Char) : List Char × List Char :=
  cs.span fun c => !p c

/-- The parts with who asks, host and port that stand between the slashes and the path. -/
def Parts.ofAuthority (part : List Char) : Parts :=
  let (asker, place) :=
    match part.reverse.span (· != '@') with
    | (_, []) => ([], part)
    | (behind, _ :: before) => (before.reverse, behind.reverse)
  let (user, password) := splitBefore (· == ':') asker
  let (host, port) := splitHost false place
  let digits := (port.drop 1).takeWhile Char.isDigit
  { user, password := password.drop 1, host
    port := if digits.isEmpty then none else Text.digitsValue? digits 0 }

/-- The parts of what stands behind the colon of a scheme that may have any kind of host. -/
def Parts.ofText (rest : List Char) : Parts :=
  let (place, query) := splitBefore (fun c => c == '?' || c == '#') rest
  let query := if query.head? == some '?' then (query.drop 1).takeWhile (· != '#') else []
  match place with
  | '/' :: '/' :: behind =>
    let (authority, path) := splitBefore (· == '/') behind
    { Parts.ofAuthority authority with path := plainPath path, query }
  | path => { path := plainPath path, query }

/-- The text of one side of a parameter: a plus sign stands for a blank, and bytes that are no
text for U+FFFD. -/
def formDecoded (cs : List Char) : String :=
  String.ofList (Utf8.decodeLossy (percentDecoded (cs.map fun c => if c == '+' then ' ' else c)))

def parameters (query : List Char) : List (String × String) :=
  ((query.splitOn '&').filter fun piece => !piece.isEmpty).map fun piece =>
    let (name, value) := splitBefore (· == '=') piece
    (formDecoded name, formDecoded (value.drop 1))

end UserAccounts.Net.Url
