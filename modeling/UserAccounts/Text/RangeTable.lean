/-
# Sets of code points and tables over them

A property of code points is written as a text of hexadecimal numbers: the gap
before a range, the length of the range, the gap before the next one, and so on.
`RangeTable.ofText` reads such a text into the sorted list of the places where
membership changes, and a code point is a member if an odd number of these places
is not past it. `StepTable` does the same for properties with several values: the
value given at a place holds up to the next place.

Key definitions: `RangeTable.contains`, `StepTable.get`, `rank`.
-/
import UserAccounts.Text.Digits

namespace UserAccounts.Text

/-- A number in hexadecimal; a character that is no digit counts as zero. -/
def hexNumber (cs : List Char) : Nat :=
  cs.foldl (fun n c => n * 16 + (hexValue? c).getD 0) 0

/-- The words of a text, which spaces and line breaks part. -/
def words (s : String) : List (List Char) :=
  ((s.toList.splitOnP fun c => c == ' ' || c == '\n').filter fun w => !w.isEmpty)

/-- How many entries of the sorted array `places` are not past `n`, given that the first `low`
are not and those from `high` on are. -/
def rankBetween (places : Array Nat) (n low high : Nat) : Nat :=
  if low < high then
    let middle := (low + high) / 2
    if places.getD middle 0 ≤ n then rankBetween places n (middle + 1) high
    else rankBetween places n low middle
  else low
termination_by high - low

/-- How many entries of the sorted array `places` are not past `n`. -/
def rank (places : Array Nat) (n : Nat) : Nat :=
  rankBetween places n 0 places.size

/-- A set of code points, as the sorted places where membership changes. -/
structure RangeTable where
  places : Array Nat

/-- Adds up gaps: each entry becomes the sum of the gaps up to it. -/
def sums (gaps : List Nat) : Array Nat :=
  (gaps.foldl (fun (acc : Array Nat × Nat) gap => (acc.1.push (acc.2 + gap), acc.2 + gap))
    (#[], 0)).1

def RangeTable.ofText (s : String) : RangeTable :=
  ⟨sums ((words s).map hexNumber)⟩

def RangeTable.contains (t : RangeTable) (c : Char) : Bool :=
  rank t.places c.toNat % 2 == 1

/-- A property of code points: from each place on, up to the next one, it has one value. -/
structure StepTable (α : Type) where
  places : Array Nat
  values : Array α

def StepTable.ofSteps {α : Type} (steps : List (Nat × α)) : StepTable α :=
  ⟨sums (steps.map (·.1)), (steps.map (·.2)).toArray⟩

def StepTable.get? {α : Type} (t : StepTable α) (c : Char) : Option α :=
  match rank t.places c.toNat with
  | 0 => none
  | k + 1 => t.values[k]?

end UserAccounts.Text
