/-
# Base 64 without padding

Three bytes are written as four digits of six bits; two left over as three
digits, one left over as two, and no padding follows. Two alphabets share the
first 62 digits: `plain` ends in `+` and `/`, `webSafe` in `-` and `_`. Reading
is strict: unused bits of the last digit are zero, so each byte sequence has one
written form.

Key definitions: `Base64.Alphabet`, `Base64.encode`, `Base64.decode`.
-/
import UserAccounts.Text.Utf8

namespace UserAccounts.Base64

/-- The last two digits of an alphabet; the others are letters and decimal digits. -/
structure Alphabet where
  digit62 : Char
  digit63 : Char
deriving DecidableEq, Repr

/-- The alphabet of stored password hashes. -/
def plain : Alphabet := ⟨'+', '/'⟩

/-- The alphabet of tokens. -/
def webSafe : Alphabet := ⟨'-', '_'⟩

def Alphabet.digit (a : Alphabet) (n : Nat) : Char :=
  if n < 26 then Char.ofNat (65 + n)
  else if n < 52 then Char.ofNat (71 + n)
  else if n < 62 then Char.ofNat (n - 4)
  else if n = 62 then a.digit62
  else a.digit63

def Alphabet.value? (a : Alphabet) (c : Char) : Option Nat :=
  if 'A' ≤ c && c ≤ 'Z' then some (c.toNat - 65)
  else if 'a' ≤ c && c ≤ 'z' then some (c.toNat - 71)
  else if '0' ≤ c && c ≤ '9' then some (c.toNat + 4)
  else if c = a.digit62 then some 62
  else if c = a.digit63 then some 63
  else none

def encode (a : Alphabet) : Bytes → List Char
  | [] => []
  | [x] => [a.digit (x.toNat / 4), a.digit (x.toNat % 4 * 16)]
  | [x, y] =>
    [a.digit (x.toNat / 4), a.digit (x.toNat % 4 * 16 + y.toNat / 16),
      a.digit (y.toNat % 16 * 4)]
  | x :: y :: z :: rest =>
    a.digit (x.toNat / 4) :: a.digit (x.toNat % 4 * 16 + y.toNat / 16) ::
      a.digit (y.toNat % 16 * 4 + z.toNat / 64) :: a.digit (z.toNat % 64) :: encode a rest

/-- The bytes that a run of digits stands for; none if it is no written form. -/
def decode (a : Alphabet) : List Char → Option Bytes
  | [] => some []
  | [_] => none
  | [c, d] => do
    let x ← a.value? c
    let y ← a.value? d
    if y % 16 = 0 then some [UInt8.ofNat (x * 4 + y / 16)] else none
  | [c, d, e] => do
    let x ← a.value? c
    let y ← a.value? d
    let z ← a.value? e
    if z % 4 = 0 then
      some [UInt8.ofNat (x * 4 + y / 16), UInt8.ofNat (y % 16 * 16 + z / 4)]
    else none
  | c :: d :: e :: f :: rest => do
    let x ← a.value? c
    let y ← a.value? d
    let z ← a.value? e
    let w ← a.value? f
    let more ← decode a rest
    some (UInt8.ofNat (x * 4 + y / 16) :: UInt8.ofNat (y % 16 * 16 + z / 4) ::
      UInt8.ofNat (z % 4 * 64 + w) :: more)

def decodedLength (n : Nat) : Nat :=
  n * 3 / 4

end UserAccounts.Base64
