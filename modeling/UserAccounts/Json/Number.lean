/-
# Numbers in JSON texts

A number is an optional minus sign, digits without a leading zero, and optionally
a fraction and an exponent. `scanNumeral` finds its parts. `Numeral.value` makes
a number of them: a whole number if there is neither fraction nor exponent and it
fits 64 bits, and else a double, rounded from as many digits as fit 64 bits.

Key definitions: `Numeral`, `scanNumeral`, `Number`, `readNumber`.
-/
import UserAccounts.Json.Problem

namespace UserAccounts.Json

/-- The parts of a number. The exponent keeps the cursor before its digits. -/
structure Numeral where
  negative : Bool
  whole : List Nat
  fraction : List Nat
  exponent : Option (Bool × List Nat × Cursor)

def isDigitByte (b : UInt8) : Bool :=
  0x30 ≤ b && b ≤ 0x39

/-- The digits at the front, behind those already read (`acc`, last first). -/
def digitsFrom : Bytes → Position → List Nat → List Nat × Cursor
  | [], p, acc => (acc.reverse, ⟨[], p⟩)
  | b :: rest, p, acc =>
    if isDigitByte b then digitsFrom rest (p.advance b) ((b - 0x30).toNat :: acc)
    else (acc.reverse, ⟨b :: rest, p⟩)

def Cursor.digits (c : Cursor) : List Nat × Cursor :=
  digitsFrom c.rest c.position []

/-- The digits before the point; `atEnd` is the fault of a text that ends before them. -/
def scanWhole (atEnd : Fault) (c : Cursor) : Except Problem (List Nat × Cursor) :=
  match c.rest with
  | [] => .error (c.fault atEnd)
  | b :: more =>
    if b == 0x30 then
      match more with
      | d :: _ =>
        if isDigitByte d then .error (c.next.faultAhead .badNumber) else .ok ([0], c.next)
      | [] => .ok ([0], c.next)
    else if isDigitByte b then .ok c.digits
    else .error (c.next.fault .badNumber)

/-- The digits behind the point, if there is one. -/
def scanFraction (atEnd : Fault) (c : Cursor) : Except Problem (List Nat × Cursor) :=
  match c.rest with
  | 0x2E :: _ =>
    match c.next.digits with
    | ([], after) =>
      match after.rest with
      | [] => .error (after.faultAhead atEnd)
      | _ :: _ => .error (after.faultAhead .badNumber)
    | found => .ok found
  | _ => .ok ([], c)

/-- The exponent, if there is one: whether it is negative, its digits, and the cursor before
them. -/
def scanExponent (atEnd : Fault) (c : Cursor) :
    Except Problem (Option (Bool × List Nat × Cursor) × Cursor) :=
  match c.rest with
  | [] => .ok (none, c)
  | e :: more =>
    if e == 0x65 || e == 0x45 then
      let (negative, start) := match more with
        | 0x2B :: _ => (false, c.next.next)
        | 0x2D :: _ => (true, c.next.next)
        | _ => (false, c.next)
      match start.rest with
      | [] => .error (start.fault atEnd)
      | b :: _ =>
        if isDigitByte b then
          let (digits, after) := start.digits
          .ok (some (negative, digits, start), after)
        else .error (start.next.fault .badNumber)
    else .ok (none, c)

/-- The parts of the number at the cursor, which stands behind its minus sign if it has one. -/
def scanNumeral (atEnd : Fault) (negative : Bool) (c : Cursor) :
    Except Problem (Numeral × Cursor) := do
  let (whole, c) ← scanWhole atEnd c
  let (fraction, c) ← scanFraction atEnd c
  let (exponent, c) ← scanExponent atEnd c
  .ok (⟨negative, whole, fraction, exponent⟩, c)

inductive Number where
  | integer (n : Int)
  | floating (f : Float)

def Number.found : Number → Found
  | .integer n => .integer n
  | .floating f => .floating (.ofFloat f)

def maxWord : Nat := UInt64.size - 1

/-- Takes digits as long as the number they make fits 64 bits: the number, how many were taken,
and how many were not. -/
def gather : List Nat → Nat → Nat → Nat × Nat × Nat
  | [], n, taken => (n, taken, 0)
  | d :: ds, n, taken =>
    if maxWord < n * 10 + d then (n, taken, (d :: ds).length)
    else gather ds (n * 10 + d) (taken + 1)

/-- The exponent that digits spell, or how many digits it takes to pass 31 bits. -/
def exponentOf : List Nat → Nat → Nat → Except Nat Nat
  | [], n, _ => .ok n
  | d :: ds, n, taken =>
    if UInt32.size / 2 - 1 < n * 10 + d then .error (taken + 1)
    else exponentOf ds (n * 10 + d) (taken + 1)

/-- The double nearest to a power of ten. -/
def powerOfTen (k : Nat) : Float :=
  Float.ofScientific 1 false k

/-- The double `f · 10^e`, computed by one multiplication, or by divisions by at most `10^308`;
none if it is too large. -/
def scaleFloat (f : Float) (e : Int) : Option Float :=
  if 0 ≤ e then
    if e ≤ 308 then
      let g := f * powerOfTen e.toNat
      if g.isInf then none else some g
    else if f == 0 then some f
    else none
  else if -308 ≤ e then some (f / powerOfTen (-e).toNat)
  else if f == 0 then some f
  else scaleFloat (f / powerOfTen 308) (e + 308)
termination_by (-e).toNat
decreasing_by omega

def floatOf (negative : Bool) (n : Nat) (e : Int) (after : Cursor) : Except Problem Number :=
  match scaleFloat n.toUInt64.toFloat e with
  | none => .error (after.fault .numberTooLarge)
  | some f => .ok (.floating (if negative then -f else f))

/-- The number that the parts make; `after` is the cursor behind them. -/
def Numeral.value (numeral : Numeral) (after : Cursor) : Except Problem Number :=
  let (n, _, left) := gather numeral.whole 0 0
  if numeral.fraction.isEmpty && numeral.exponent.isNone && left == 0 then
    if !numeral.negative then .ok (.integer n)
    else if 0 < n && n ≤ UInt64.size / 2 then .ok (.integer (-(n : Int)))
    else .ok (.floating (-n.toUInt64.toFloat))
  else
    let (n, behind, _) := gather numeral.fraction n 0
    let start : Int := (left : Int) - behind
    match numeral.exponent with
    | none => floatOf numeral.negative n start after
    | some (negative, digits, before) =>
      match exponentOf digits 0 0 with
      | .ok e => floatOf numeral.negative n (if negative then start - e else start + e) after
      | .error taken =>
        if n ≠ 0 && !negative then .error ((before.skip taken).fault .numberTooLarge)
        else .ok (.floating (if numeral.negative then -0.0 else 0.0))

/-- The number at the cursor, which stands at its first byte. -/
def readNumber (c : Cursor) : Except Problem (Number × Cursor) := do
  let (negative, c) := match c.rest with
    | 0x2D :: _ => (true, c.next)
    | _ => (false, c)
  let (numeral, c) ← scanNumeral .endInValue negative c
  let number ← numeral.value c
  .ok (number, c)

/-- The cursor behind the number at it, whatever its value. -/
def skipNumber (c : Cursor) : Except Problem Cursor := do
  let (negative, c) := match c.rest with
    | 0x2D :: _ => (true, c.next)
    | _ => (false, c)
  let (_, c) ← scanNumeral .badNumber negative c
  .ok c

end UserAccounts.Json
