/-
# Identifiers

A user's identifier has sixteen bytes, written as 32 hexadecimal digits in five
groups. A new one is made from sixteen random bytes, six bits of which are fixed
to say how it was made.

Key definitions: `Id`, `Id.toText`, `Id.ofText?`, `Id.ofRandom`.
-/
import UserAccounts.Text.Digits
import UserAccounts.Text.Utf8

namespace UserAccounts

/-- An identifier of sixteen bytes. -/
structure Id where
  bytes : Vector UInt8 16
deriving DecidableEq, Repr

namespace Id

def byteDigits (b : UInt8) : List Char :=
  [Text.hexDigit (b.toNat / 16), Text.hexDigit (b.toNat % 16)]

def group (id : Id) (start count : Nat) : List Char :=
  ((id.bytes.toList.drop start).take count).flatMap byteDigits

/-- The text of an identifier: groups of 8, 4, 4, 4 and 12 lower-case digits. -/
def toText (id : Id) : String :=
  String.ofList (id.group 0 4 ++ '-' :: id.group 4 2 ++ '-' :: id.group 6 2 ++ '-' ::
    id.group 8 2 ++ '-' :: id.group 10 6)

def bytesOfDigits : List Char → Option Bytes
  | [] => some []
  | [_] => none
  | c :: d :: rest => do
    let high ← Text.hexValue? c
    let low ← Text.hexValue? d
    let more ← bytesOfDigits rest
    some (UInt8.ofNat (high * 16 + low) :: more)

def ofBytes? (bytes : Bytes) : Option Id :=
  if h : bytes.toArray.size = 16 then some ⟨⟨bytes.toArray, h⟩⟩ else none

def ofText? (s : String) : Option Id := do
  let groups := s.toList.splitOn '-'
  if groups.map (·.length) = [8, 4, 4, 4, 12] then
    ofBytes? (← bytesOfDigits groups.flatten)
  else none

/-- The identifier made from sixteen random bytes: four bits tell version 4, and two the layout. -/
def ofRandom (random : Vector UInt8 16) : Id :=
  ⟨(random.set 6 (random[6] &&& 0x0F ||| 0x40)).set 8 (random[8] &&& 0x3F ||| 0x80)⟩

end Id

end UserAccounts
