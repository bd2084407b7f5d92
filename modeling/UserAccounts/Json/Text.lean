/-
# Strings in JSON texts

Behind the opening quote stand characters and escapes up to the closing quote.
`readString` gives the text they spell. A character outside the basic plane may be
escaped as two surrogates, one behind the other; a surrogate alone is a fault.
`skipString` passes over a string without asking what it spells.

Key definitions: `escape`, `readString`, `skipString`.
-/
import UserAccounts.Json.Problem

namespace UserAccounts.Json

def hexByte? (b : UInt8) : Option Nat :=
  Text.hexValue? (Char.ofNat b.toNat)

/-- The number that the four digits at the front spell. A fault comes with the number of bytes it
takes. -/
def fourDigits : Bytes → Except (Fault × Nat) Nat
  | a :: b :: c :: d :: _ =>
    match hexByte? a, hexByte? b, hexByte? c, hexByte? d with
    | some a, some b, some c, some d => .ok (((a * 16 + b) * 16 + c) * 16 + d)
    | _, _, _, _ => .error (.badEscape, 4)
  | short => .error (.endInString, short.length)

def shortEscape? (b : UInt8) : Option Char :=
  if b == 0x22 then some '"'
  else if b == 0x5C then some '\\'
  else if b == 0x2F then some '/'
  else if b == 0x62 then some '\x08'
  else if b == 0x66 then some '\x0c'
  else if b == 0x6E then some '\n'
  else if b == 0x72 then some '\r'
  else if b == 0x74 then some '\t'
  else none

/-- Moves the place of a fault `n` bytes on. -/
def later {α : Type} (n : Nat) : Except (Fault × Nat) α → Except (Fault × Nat) α
  | .error (fault, k) => .error (fault, n + k)
  | .ok a => .ok a

/-- The second of two surrogates, of which the first was `high`: a backslash, a `u` and four
digits. -/
def lowSurrogate (high : Nat) : Bytes → Except (Fault × Nat) (Char × Nat)
  | [] => .error (.endInString, 0)
  | b :: rest =>
    if b != 0x5C then .error (.halfSurrogate, 1)
    else match rest with
      | [] => .error (.endInString, 1)
      | u :: rest =>
        if u != 0x75 then .error (.halfSurrogate, 2)
        else do
          let low ← later 2 (fourDigits rest)
          if 0xDC00 ≤ low && low ≤ 0xDFFF then
            .ok (Char.ofNat ((high - 0xD800) * 0x400 + (low - 0xDC00) + 0x10000), 6)
          else .error (.loneSurrogate, 6)

/-- The character that the escape at the front stands for, and the number of bytes it takes behind
its backslash. -/
def escape : Bytes → Except (Fault × Nat) (Char × Nat)
  | [] => .error (.endInString, 0)
  | b :: rest =>
    if b == 0x75 then do
      let n ← later 1 (fourDigits rest)
      if 0xDC00 ≤ n && n ≤ 0xDFFF then .error (.loneSurrogate, 5)
      else if 0xD800 ≤ n && n ≤ 0xDBFF then do
        let (c, used) ← later 5 (lowSurrogate n (rest.drop 4))
        .ok (c, 5 + used)
      else .ok (Char.ofNat n, 5)
    else match shortEscape? b with
      | some c => .ok (c, 1)
      | none => .error (.badEscape, 1)

/-- The number of bytes of the escape at the front behind its backslash, whatever it stands for. -/
def escapeLength : Bytes → Except (Fault × Nat) Nat
  | [] => .error (.endInString, 0)
  | b :: rest =>
    if b == 0x75 then do
      let _ ← later 1 (fourDigits rest)
      .ok 5
    else if (shortEscape? b).isSome then .ok 1
    else .error (.badEscape, 1)

/-- The bytes that a string spells, up to the closing quote and behind those already found
(`acc`, last first). -/
def spelledFrom : Bytes → Position → Bytes → Except Problem (Bytes × Cursor)
  | [], p, _ => .error ((⟨[], p⟩ : Cursor).fault .endInString)
  | b :: rest, p, acc =>
    let after : Cursor := ⟨rest, p.advance b⟩
    if b == 0x22 then .ok (acc.reverse, after)
    else if b == 0x5C then
      match escape rest with
      | .error (fault, n) => .error ((after.skip n).fault fault)
      | .ok (c, n) =>
        spelledFrom (rest.drop n) ⟨after.position.line, after.position.column + n⟩
          ((String.utf8EncodeChar c).reverse ++ acc)
    else if b < 0x20 then .error (after.fault .controlCharacter)
    else spelledFrom rest after.position (b :: acc)
termination_by bytes => bytes.length
decreasing_by all_goals simp [List.length_drop]; try omega

/-- The text of the string at the cursor, which stands behind its opening quote. If what it spells
is not UTF-8, the place of the fault is as many bytes before the end of the string as are left
from the first bad byte on. -/
def readString (c : Cursor) : Except Problem (String × Cursor) := do
  let (bytes, after) ← spelledFrom c.rest c.position []
  match Utf8.decode bytes with
  | .ok s => .ok (s, after)
  | .error defect =>
    let left := bytes.length - defect.index
    .error {
      cause := .malformed .badCodePoint
      position := ⟨after.position.line, after.position.column - left⟩ }

def skipStringFrom : Bytes → Position → Except Problem Cursor
  | [], p => .error ((⟨[], p⟩ : Cursor).fault .endInString)
  | b :: rest, p =>
    let after : Cursor := ⟨rest, p.advance b⟩
    if b == 0x22 then .ok after
    else if b == 0x5C then
      match escapeLength rest with
      | .error (fault, n) => .error ((after.skip n).fault fault)
      | .ok n => skipStringFrom (rest.drop n) ⟨after.position.line, after.position.column + n⟩
    else if b < 0x20 then .error ((⟨b :: rest, p⟩ : Cursor).fault .controlCharacter)
    else skipStringFrom rest after.position
termination_by bytes => bytes.length
decreasing_by all_goals simp [List.length_drop]; try omega

/-- The cursor behind the string at the cursor, which stands behind its opening quote. -/
def skipString (c : Cursor) : Except Problem Cursor :=
  skipStringFrom c.rest c.position

end UserAccounts.Json
