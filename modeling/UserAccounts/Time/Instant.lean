/-
# Instants

An instant is a number of seconds since 1970-01-01T00:00:00Z and a number of
nanoseconds. The years run from -262143 to 262142. A thousand million nanoseconds
or more are a leap second behind the second, whichever it is. It is written as the
second that comes next: behind second 59 of a minute, as its second 60.

`Instant.addMinutes?` moves an instant; `Instant.toText` writes it, in whole
seconds, or with as many groups of three decimals as it needs.

Key definitions: `Instant`, `Instant.of?`, `Instant.addMinutes?`, `Instant.toText`.
-/
import UserAccounts.Text.Digits
import UserAccounts.Time.Calendar

namespace UserAccounts.Time

def firstSecond : Int := -8334601228800

def lastSecond : Int := 8210266876799

structure Instant where
  seconds : Int
  nanos : Nat
  firstSecond_le : firstSecond ≤ seconds
  le_lastSecond : seconds ≤ lastSecond
  nanos_lt : nanos < 2000000000
deriving DecidableEq, Repr

def Instant.of? (seconds : Int) (nanos : Nat) : Option Instant :=
  if h : firstSecond ≤ seconds ∧ seconds ≤ lastSecond ∧ nanos < 2000000000 then
    some ⟨seconds, nanos, h.1, h.2.1, h.2.2⟩
  else none

def Instant.isLeapSecond (t : Instant) : Bool :=
  1000000000 ≤ t.nanos

/-- The instant some minutes later, or earlier if `minutes` is negative; a leap second is left for
the second before it, or the one after it when going back. -/
def Instant.addMinutes? (t : Instant) (minutes : Int) : Option Instant :=
  if t.isLeapSecond then
    if 0 < minutes then Instant.of? (t.seconds + 60 * minutes) (t.nanos - 1000000000)
    else if minutes < 0 then Instant.of? (t.seconds + 1 + 60 * minutes) (t.nanos - 1000000000)
    else some t
  else Instant.of? (t.seconds + 60 * minutes) t.nanos

inductive Precision where
  | seconds
  /-- The decimals that are there, in groups of three. -/
  | shown
deriving DecidableEq, Repr

/-- A year has four digits, and a sign if it lies outside 0 to 9999. -/
def yearText (year : Int) : List Char :=
  if 0 ≤ year ∧ year ≤ 9999 then Text.padded 4 year.natAbs
  else (if year < 0 then '-' else '+') :: Text.padded 4 year.natAbs

def Date.toText (d : Date) : List Char :=
  yearText d.year ++ '-' :: Text.padded 2 d.month ++ '-' :: Text.padded 2 d.day

def decimalsText (nanos : Nat) : List Char :=
  if nanos = 0 then []
  else if nanos % 1000000 = 0 then '.' :: Text.padded 3 (nanos / 1000000)
  else if nanos % 1000 = 0 then '.' :: Text.padded 6 (nanos / 1000)
  else '.' :: Text.padded 9 nanos

def Instant.day (t : Instant) : Int :=
  t.seconds / 86400

/-- The seconds of that day before the instant. -/
def Instant.secondOfDay (t : Instant) : Nat :=
  (t.seconds % 86400).toNat

/-- The second of the minute; for a leap second, the one behind. -/
def Instant.secondOfMinute (t : Instant) : Nat :=
  t.secondOfDay % 60 + if t.isLeapSecond then 1 else 0

def Instant.textChars (precision : Precision) (t : Instant) : List Char :=
  (Date.ofDay t.day).toText ++ 'T' ::
    Text.padded 2 (t.secondOfDay / 3600) ++ ':' ::
    Text.padded 2 (t.secondOfDay / 60 % 60) ++ ':' ::
    Text.padded 2 t.secondOfMinute ++
    (match precision with
      | .seconds => []
      | .shown => decimalsText (t.nanos % 1000000000)) ++ ['Z']

def Instant.toText (precision : Precision) (t : Instant) : String :=
  String.ofList (t.textChars precision)

end UserAccounts.Time
