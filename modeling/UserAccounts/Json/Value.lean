/-
# JSON texts

The values that the service writes, and how it writes them: no space between
tokens, members in the order given, quotes, backslashes and control characters
escaped, all else as it is.

Key definitions: `Value`, `escaped`, `Value.toText`.
-/
import UserAccounts.Text.Digits

namespace UserAccounts.Json

/-- A JSON value; numbers are whole. -/
inductive Value where
  | number (n : Int)
  | text (s : String)
  | object (members : List (String × Value))

/-- A character as it stands inside a string: the short escapes where there is one, four
hexadecimal digits for the other control characters. -/
def escaped (c : Char) : List Char :=
  if c = '"' then ['\\', '"']
  else if c = '\\' then ['\\', '\\']
  else if c = '\n' then ['\\', 'n']
  else if c = '\r' then ['\\', 'r']
  else if c = '\t' then ['\\', 't']
  else if c = '\x08' then ['\\', 'b']
  else if c = '\x0c' then ['\\', 'f']
  else if c.toNat < 0x20 then
    ['\\', 'u', '0', '0', Text.hexDigit (c.toNat / 16), Text.hexDigit (c.toNat % 16)]
  else [c]

def writeString (s : String) : List Char :=
  '"' :: s.toList.flatMap escaped ++ ['"']

mutual

def Value.write : Value → List Char
  | .number n => Text.signed n
  | .text s => writeString s
  | .object members => '\x7b' :: writeMembers members

def writeMembers : List (String × Value) → List Char
  | [] => ['\x7d']
  | (key, value) :: rest =>
    writeString key ++ ':' :: Value.write value ++ writeMoreMembers rest

/-- The members behind the first, each behind a comma, and the end. -/
def writeMoreMembers : List (String × Value) → List Char
  | [] => ['\x7d']
  | (key, value) :: rest =>
    ',' :: writeString key ++ ':' :: Value.write value ++ writeMoreMembers rest

end

def Value.toText (v : Value) : String :=
  String.ofList v.write

end UserAccounts.Json
