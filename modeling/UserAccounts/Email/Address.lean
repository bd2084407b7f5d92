/-
# Email addresses

An address is split at its last `@`. Before it stand at most 64 characters that
`isNameChar` allows, and at least one. Behind it stand at most 255 characters: a
host name of labels with dots between them, or a text that ends in an internet
address between brackets, or one of these after the name has been written in
ASCII.

Key definitions: `isAddress`, `isHostName`, `bracketed?`, `isHost`.
-/
import UserAccounts.Host.Ascii
import UserAccounts.Net.Address

namespace UserAccounts.Email

/-- A character that may stand before the `@`. Letters are those of ASCII, in either case: the long
s and the sign of the kelvin, which case folding takes to s and k, are none. -/
def isNameChar (c : Char) : Bool :=
  c.isAlphanum || ".!#$%&'*+/=?^_`\x7b|\x7d~-".toList.contains c

example : isNameChar 'K' = true ∧ isNameChar '\u017F' = false ∧ isNameChar '\u212A' = false := by
  decide

/-- One part of a host name: up to 63 letters of ASCII, digits and hyphens, without a hyphen at an
end. -/
def isLabel (cs : List Char) : Bool :=
  cs.length ≤ 63 &&
  cs.all (fun c => c.isAlphanum || c == '-') &&
  cs.head?.any Char.isAlphanum && cs.getLast?.any Char.isAlphanum

def isHostName (cs : List Char) : Bool :=
  (cs.splitOn '.').all isLabel

def isBracketedChar (c : Char) : Bool :=
  (Text.hexValue? c).isSome || c == ':' || c == '.'

/-- The text between the last character, a closing bracket, and the opening bracket before it, if
all of it are characters of an internet address. -/
def bracketed? (cs : List Char) : Option (List Char) :=
  match cs.reverse with
  | ']' :: before =>
    match before.span isBracketedChar with
    | (_ :: _, '[' :: _) => some (before.takeWhile isBracketedChar).reverse
    | _ => none
  | _ => none

/-- A host name, or a text that ends in an internet address between brackets. -/
def isHost (cs : List Char) : Bool :=
  isHostName cs || ((bracketed? cs).bind Net.Ip.ofText?).isSome

def splitAtLastAt (cs : List Char) : Option (List Char × List Char) :=
  match cs.reverse.span (· != '@') with
  | (_, []) => none
  | (behind, _ :: before) => some (before.reverse, behind.reverse)

def isAddress (s : String) : Bool :=
  match splitAtLastAt s.toList with
  | none => false
  | some (name, host) =>
    name.length ≤ 64 && host.length ≤ 255 && !name.isEmpty && name.all isNameChar &&
    (isHost host || (Host.toAscii .unicode13 host).any isHost)

end UserAccounts.Email
