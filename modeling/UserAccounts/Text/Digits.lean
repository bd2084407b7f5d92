/-
# Whole numbers written in decimal

Reading: a number is one or more ASCII digits, leading zeros allowed, behind an
optional `+`, or, where negative numbers exist, an optional `-`; it must lie in
the range of its type. `DigitFault` tells apart why a text is not such a number.
Writing: `decimal` and, for dates and codes of fixed width, `padded`.

Key definitions: `readInteger`, `readNatural`, `decimal`, `padded`, `hexLower`.
-/

namespace UserAccounts.Text

inductive DigitFault where
  | empty
  | notADigit
  | tooLarge
  | tooSmall
deriving DecidableEq, Repr

def DigitFault.message : DigitFault → String
  | .empty => "cannot parse integer from empty string"
  | .notADigit => "invalid digit found in string"
  | .tooLarge => "number too large to fit in target type"
  | .tooSmall => "number too small to fit in target type"

def digitValue? (c : Char) : Option Nat :=
  if c.isDigit then some (c.toNat - 48) else none

/-- The value of a run of ASCII digits, behind the value `acc` of the digits before it. -/
def digitsValue? : List Char → Nat → Option Nat
  | [], acc => some acc
  | c :: cs, acc => (digitValue? c).bind fun d => digitsValue? cs (acc * 10 + d)

/-- The magnitude of the digits behind the sign; at least one is wanted. -/
def magnitude? : List Char → Option Nat
  | [] => none
  | cs => digitsValue? cs 0

/-- A whole number between `low` and `high`, with an optional sign. -/
def readInteger (low high : Int) (cs : List Char) : Except DigitFault Int :=
  match cs with
  | [] => .error .empty
  | '-' :: digits =>
    match magnitude? digits with
    | none => .error .notADigit
    | some n => if -(n : Int) < low then .error .tooSmall else .ok (-n)
  | '+' :: digits =>
    match magnitude? digits with
    | none => .error .notADigit
    | some n => if high < n then .error .tooLarge else .ok n
  | digits =>
    match magnitude? digits with
    | none => .error .notADigit
    | some n => if high < n then .error .tooLarge else .ok n

/-- A whole number up to `high`; a minus sign is no digit. -/
def readNatural (high : Nat) (cs : List Char) : Except DigitFault Nat :=
  let read (digits : List Char) : Except DigitFault Nat :=
    match magnitude? digits with
    | none => .error .notADigit
    | some n => if high < n then .error .tooLarge else .ok n
  match cs with
  | [] => .error .empty
  | '+' :: digits => read digits
  | digits => read digits

def decimal (n : Nat) : List Char :=
  Nat.toDigits 10 n

/-- The decimal digits of a number, filled with zeros on the left up to `width`. -/
def padded (width n : Nat) : List Char :=
  let digits := decimal n
  List.replicate (width - digits.length) '0' ++ digits

def signed (n : Int) : List Char :=
  if n < 0 then '-' :: decimal n.natAbs else decimal n.natAbs

def hexDigit (n : Nat) : Char :=
  if n < 10 then Char.ofNat (48 + n) else Char.ofNat (87 + n)

/-- The value of a hexadecimal digit of either case. -/
def hexValue? (c : Char) : Option Nat :=
  if c.isDigit then some (c.toNat - 48)
  else if 'a' ≤ c && c ≤ 'f' then some (c.toNat - 87)
  else if 'A' ≤ c && c ≤ 'F' then some (c.toNat - 55)
  else none

/-- The lower-case hexadecimal digits of a number, none left out and none in front. -/
def hexLower (n : Nat) : List Char :=
  Nat.toDigits 16 n

end UserAccounts.Text
