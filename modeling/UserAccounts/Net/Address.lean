/-
# Internet addresses

The standard texts of IPv4 and IPv6 addresses and of an address with a port.
Readers take what they need from the front of a list of characters and give back
the rest; `Ip.ofText?` and `Socket.ofText?` want all of it. An IPv4 address is
four decimal numbers without leading zeros; an IPv6 address is eight groups of
one to four hexadecimal digits, one run of which may be left out between two
colons, and the last two of which may be written as an IPv4 address.

Key definitions: `Ip`, `Ip.ofText?`, `Socket.ofText?`, `Socket.toText`.
-/
import UserAccounts.Text.Digits

namespace UserAccounts.Net

/-- An internet address: four numbers below 256, or eight below 65536. -/
inductive Ip where
  | v4 (octets : List Nat)
  | v6 (groups : List Nat)
deriving DecidableEq, Repr

/-- An address with a port and, for IPv6, the zone in which the address holds. -/
structure Socket where
  ip : Ip
  port : Nat
  zone : Nat := 0
deriving DecidableEq, Repr

/-! ### Reading from the front -/

/-- The digits of base `base` at the front, as numbers, and what follows them. -/
def digitRun (base : Nat) : List Char → List Nat × List Char
  | [] => ([], [])
  | c :: cs =>
    match (Text.hexValue? c).filter (· < base) with
    | some d => let (ds, rest) := digitRun base cs; (d :: ds, rest)
    | none => ([], c :: cs)

def numeral (base : Nat) (digits : List Nat) : Nat :=
  digits.foldl (fun n d => n * base + d) 0

/-- A decimal number below 256, of at most three digits and without leading zeros. -/
def readOctet (cs : List Char) : Option (Nat × List Char) :=
  let (ds, rest) := digitRun 10 cs
  if ds.isEmpty || 3 < ds.length || (ds.head? == some 0 && 1 < ds.length) ||
    255 < numeral 10 ds then none
  else some (numeral 10 ds, rest)

/-- A hexadecimal number of one to four digits. -/
def readGroup (cs : List Char) : Option (Nat × List Char) :=
  let (ds, rest) := digitRun 16 cs
  if ds.isEmpty || 4 < ds.length then none else some (numeral 16 ds, rest)

/-- A decimal number up to `high`, leading zeros allowed. -/
def readUpTo (high : Nat) (cs : List Char) : Option (Nat × List Char) :=
  let (ds, rest) := digitRun 10 cs
  if ds.isEmpty || high < numeral 10 ds then none else some (numeral 10 ds, rest)

def readChar (c : Char) : List Char → Option (List Char)
  | d :: cs => if d = c then some cs else none
  | [] => none

def readV4 (cs : List Char) : Option (List Nat × List Char) := do
  let (a, cs) ← readOctet cs
  let cs ← readChar '.' cs
  let (b, cs) ← readOctet cs
  let cs ← readChar '.' cs
  let (c, cs) ← readOctet cs
  let cs ← readChar '.' cs
  let (d, cs) ← readOctet cs
  some ([a, b, c, d], cs)

/-- The two groups that an IPv4 address fills. -/
def groupsOfOctets : List Nat → List Nat
  | [a, b, c, d] => [a * 256 + b, c * 256 + d]
  | _ => []

/-- Up to `limit` groups with colons between them; all but the first are read behind a colon. An
IPv4 address counts as two groups and ends the run, which the flag says. -/
def readGroups : Nat → Bool → List Char → List Nat × Bool × List Char
  | 0, _, cs => ([], false, cs)
  | limit + 1, first, cs =>
    match if first then some cs else readChar ':' cs with
    | none => ([], false, cs)
    | some inner =>
      match if 0 < limit then readV4 inner else none with
      | some (octets, rest) => (groupsOfOctets octets, true, rest)
      | none =>
        match readGroup inner with
        | none => ([], false, cs)
        | some (g, rest) =>
          let (gs, embedded, rest) := readGroups limit false rest
          (g :: gs, embedded, rest)

def readV6 (cs : List Char) : Option (List Nat × List Char) :=
  let (front, embedded, rest) := readGroups 8 true cs
  if front.length = 8 then some (front, rest)
  else if embedded then none
  else do
    let rest ← readChar ':' rest
    let rest ← readChar ':' rest
    let (back, _, rest) := readGroups (7 - front.length) true rest
    some (front ++ List.replicate (8 - front.length - back.length) 0 ++ back, rest)

def readIp (cs : List Char) : Option (Ip × List Char) :=
  match readV4 cs with
  | some (octets, rest) => some (.v4 octets, rest)
  | none => (readV6 cs).map fun (groups, rest) => (.v6 groups, rest)

def readPort (cs : List Char) : Option (Nat × List Char) := do
  let cs ← readChar ':' cs
  readUpTo 65535 cs

/-- What a reader finds, if it takes the whole text. -/
def whole {α : Type} : Option (α × List Char) → Option α
  | some (a, []) => some a
  | _ => none

def Ip.ofText? (cs : List Char) : Option Ip :=
  whole (readIp cs)

def readSocketV4 (cs : List Char) : Option (Socket × List Char) := do
  let (octets, cs) ← readV4 cs
  let (port, cs) ← readPort cs
  some ({ ip := .v4 octets, port := port }, cs)

/-- The zone behind a percent sign, or zero and nothing taken. -/
def readZone (cs : List Char) : Nat × List Char :=
  match (readChar '%' cs).bind (readUpTo 0xFFFFFFFF) with
  | some (zone, rest) => (zone, rest)
  | none => (0, cs)

def readSocketV6 (cs : List Char) : Option (Socket × List Char) := do
  let cs ← readChar '[' cs
  let (groups, cs) ← readV6 cs
  let (zone, cs) := readZone cs
  let cs ← readChar ']' cs
  let (port, cs) ← readPort cs
  some ({ ip := .v6 groups, port := port, zone := zone }, cs)

def Socket.ofText? (cs : List Char) : Option Socket :=
  (whole (readSocketV4 cs)).or (whole (readSocketV6 cs))

/-! ### Writing -/

/-- Numbers in decimal with dots between them. -/
def dotted (octets : List Nat) : List Char :=
  ['.'].intercalate (octets.map Text.decimal)

/-- Groups in hexadecimal with colons between them. -/
def colons (groups : List Nat) : List Char :=
  [':'].intercalate (groups.map Text.hexLower)

def zerosAhead (groups : List Nat) : Nat :=
  (groups.takeWhile (· == 0)).length

/-- The first of the longest runs of zeros: where it starts and how long it is. `start` is the place
of the first group. -/
def longestZeros : List Nat → Nat → Nat × Nat
  | [], _ => (0, 0)
  | g :: gs, start =>
    let here := zerosAhead (g :: gs)
    let later := longestZeros gs (start + 1)
    if later.2 ≤ here then (start, here) else later

/-- An IPv6 address: one that stands for an IPv4 address ends in it, and else the first longest run
of two or more zero groups is left out. -/
def v6Text (groups : List Nat) : List Char :=
  match groups with
  | [0, 0, 0, 0, 0, 0xFFFF, g, h] =>
    "::ffff:".toList ++ dotted [g / 256, g % 256, h / 256, h % 256]
  | _ =>
    let (start, count) := longestZeros groups 0
    if count < 2 then colons groups
    else colons (groups.take start) ++ [':', ':'] ++ colons (groups.drop (start + count))

def Ip.toText : Ip → List Char
  | .v4 octets => dotted octets
  | .v6 groups => v6Text groups

def Socket.toText (s : Socket) : List Char :=
  match s.ip with
  | .v4 octets => dotted octets ++ ':' :: Text.decimal s.port
  | .v6 groups =>
    let zone := if s.zone = 0 then [] else '%' :: Text.decimal s.zone
    '[' :: v6Text groups ++ zone ++ ']' :: ':' :: Text.decimal s.port

end UserAccounts.Net
