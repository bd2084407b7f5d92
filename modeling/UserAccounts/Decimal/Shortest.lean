/-
# The shortest decimal that reads back

A double is `m · 2^q`, and a decimal reads back as it if it lies in the interval
of reals that round to it, whose ends belong to it exactly if `m` is even. For
one, two, … digits `Binary.shortest` looks at the two neighbours of the value on
the grid with so many digits; the first grid with a neighbour in the interval
gives the digits, and of two such neighbours the nearer.

Key definitions: `Binary`, `Binary.ofFloat`, `Binary.shortest`, `Binary.toText`.
-/
import UserAccounts.Text.Digits

namespace UserAccounts.Decimal

/-- A finite double: its sign and the number `m · 2^q`. -/
structure Binary where
  negative : Bool
  m : Nat
  q : Int
deriving DecidableEq, Repr

def Binary.ofFloat (f : Float) : Binary :=
  let bits := f.toBits.toNat
  let fraction : Nat := bits % Nat.pow 2 52
  let exponent : Nat := bits / Nat.pow 2 52 % Nat.pow 2 11
  let negative := bits / Nat.pow 2 63 == 1
  if exponent = 0 then ⟨negative, fraction, -1074⟩
  else ⟨negative, fraction + Nat.pow 2 52, (exponent : Int) - 1075⟩

/-- A value between the ends of the interval that rounds to it, all over one denominator. -/
structure Interval where
  low : Nat
  value : Nat
  high : Nat
  unit : Nat
  closed : Bool

/-- The interval of a double; below a power of two the doubles lie half as far apart. -/
def Binary.interval (b : Binary) : Interval :=
  let up := Nat.pow 2 b.q.toNat
  let below := if b.m = Nat.pow 2 52 && b.q ≠ -1074 then 1 else 2
  { low := (4 * b.m - below) * up
    value := 4 * b.m * up
    high := (4 * b.m + 2) * up
    unit := 4 * Nat.pow 2 (-b.q).toNat
    closed := b.m % 2 == 0 }

/-- The interval counted in units of `10^k`. -/
def Interval.scaled (i : Interval) (k : Int) : Interval :=
  let up := Nat.pow 10 (-k).toNat
  { i with
    low := i.low * up
    value := i.value * up
    high := i.high * up
    unit := i.unit * Nat.pow 10 k.toNat }

def Interval.holds (i : Interval) (d : Nat) : Bool :=
  if i.closed then i.low ≤ d * i.unit && d * i.unit ≤ i.high
  else i.low < d * i.unit && d * i.unit < i.high

/-- The neighbour of the value, in units, that lies in the interval, if there is one; of two the
nearer, and the even one if both are as near. -/
def Interval.neighbour? (i : Interval) : Option Nat :=
  let d := i.value / i.unit
  match i.holds d, i.holds (d + 1) with
  | true, true =>
    let doubled := 2 * (i.value % i.unit)
    if doubled < i.unit || (doubled == i.unit && d % 2 == 0) then some d else some (d + 1)
  | true, false => some d
  | false, true => some (d + 1)
  | false, false => none

/-- The least `j` from `j₀` on with `10^j` times the value at least one; `fuel` steps at most. -/
def shiftToOne (i : Interval) : Nat → Nat → Nat
  | 0, j => j
  | fuel + 1, j => if i.unit ≤ i.value * Nat.pow 10 j then j else shiftToOne i fuel (j + 1)

/-- The power of ten of the first digit of the value. -/
def Interval.magnitude (i : Interval) : Int :=
  if i.unit ≤ i.value then ((Text.decimal (i.value / i.unit)).length : Int) - 1
  else -(shiftToOne i 400 1 : Int)

/-- Looks at grids of `n`, `n + 1`, … digits, up to `fuel` of them. -/
def Interval.search (i : Interval) (magnitude : Int) : Nat → Nat → Nat × Int
  | 0, _ => (i.value / i.unit, 0)
  | fuel + 1, n =>
    let k := magnitude - (n : Int) + 1
    match (i.scaled k).neighbour? with
    | some d => (d, k)
    | none => i.search magnitude fuel (n + 1)

/-- Digits `d` and power `k` of the shortest decimal `d · 10^k` that reads back; zero for zero. -/
def Binary.shortest (b : Binary) : Nat × Int :=
  if b.m = 0 then (0, 0) else b.interval.search b.interval.magnitude 17 1

structure Layout where
  /-- The least power of ten of the first digit that is written without exponent. -/
  lowest : Int
  /-- The greatest such power. -/
  highest : Int
  /-- The least number of digits of an exponent. -/
  exponentWidth : Nat
deriving DecidableEq, Repr

/-- The text of a double: positional with at least one digit behind the point, or one digit before
the point and a signed exponent. -/
def Binary.toText (layout : Layout) (b : Binary) : List Char :=
  let (d, k) := b.shortest
  let kept := (Text.decimal d).reverse.dropWhile (· == '0')
  let k := k + ((Text.decimal d).length - kept.length : Nat)
  let digits := kept.reverse
  let sign := if b.negative then ['-'] else []
  let power := (digits.length : Int) - 1 + k
  sign ++
    (if digits.isEmpty then ['0', '.', '0']
    else if layout.lowest ≤ power && power ≤ layout.highest then
      if power < 0 then
        '0' :: '.' :: List.replicate (-power - 1).toNat '0' ++ digits
      else
        let before := (power + 1).toNat
        let behind := digits.drop before
        digits.take before ++ List.replicate (before - digits.length) '0' ++
          '.' :: (if behind.isEmpty then ['0'] else behind)
    else
      let behind := digits.drop 1
      digits.take 1 ++ (if behind.isEmpty then [] else '.' :: behind) ++
        'e' :: (if power < 0 then '-' else '+') ::
        Text.padded layout.exponentWidth power.natAbs)

end UserAccounts.Decimal
