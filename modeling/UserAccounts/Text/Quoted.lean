/-
# Quoted texts

A text between double quotes, with the characters that would not show or would
end it replaced by escapes: `\n` and its kin, `\"`, `\\`, and the code point in
hexadecimal for every character that `isUnprintable` names. A single quote stands
as it is.

Key definitions: `escaped`, `quoted`.
-/
import UserAccounts.Text.Unprintable

namespace UserAccounts.Text

def escaped (c : Char) : List Char :=
  if c = '\x00' then ['\\', '0']
  else if c = '\t' then ['\\', 't']
  else if c = '\n' then ['\\', 'n']
  else if c = '\r' then ['\\', 'r']
  else if c = '"' then ['\\', '"']
  else if c = '\\' then ['\\', '\\']
  else if isUnprintable c then '\\' :: 'u' :: '\x7b' :: hexLower c.toNat ++ ['\x7d']
  else [c]

def quoted (s : String) : String :=
  String.ofList ('"' :: s.toList.flatMap escaped ++ ['"'])

end UserAccounts.Text
