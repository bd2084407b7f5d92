/-
# Host names in ASCII

An internationalized host name is mapped character by character, composed, and
taken apart at its dots; a label that starts with `xn--` is decoded. Every label
must be composed, must not begin with a combining mark, must hold only characters
that the mapping keeps, and must follow the rule on direction if any label runs
from right to left. Then each label that is not ASCII is written in Punycode
behind `xn--` (`toAscii`).

The later edition of the standard also looks at joiners, does not take an encoded
label that stands for ASCII alone, and limits the length of a label.

Key definitions: `labelAllowed`, `toAscii`.
-/
import UserAccounts.Host.Mapping
import UserAccounts.Host.Direction
import UserAccounts.Host.Joining
import UserAccounts.Host.Punycode
import UserAccounts.Text.Mark

namespace UserAccounts.Host

/-- What stands before a label written in Punycode. -/
def encodedMark : List Char := ['x', 'n', '-', '-']

def isAscii (cs : List Char) : Bool :=
  cs.all fun c => c.toNat < 128

/-- Whether a label may stand in a host name: it does not begin with a mark, and the mapping keeps
all its characters. -/
def labelAllowed (edition : Edition) (label : List Char) : Bool :=
  (match label with
    | [] => true
    | c :: _ => !Text.isMark c) &&
  (label.all fun c => treatment edition c == .keep) &&
  (edition == .unicode13 || joinersFit [] label)

/-- The most characters of a label that is to be written in Punycode. -/
def longestPlain : Nat := 1000

def longestEncoded : Nat := 2000

/-- The characters that a label in Punycode stands for. -/
def decodeLabel (edition : Edition) (code : List Char) : Option (List Char) := do
  let label ← Punycode.decode code
  if edition == .unicode17 && (isAscii label || longestEncoded < code.length) then none
  else if Text.nfc label == label && labelAllowed edition label then some label
  else none

def plainLabel (edition : Edition) (label : List Char) : Option (List Char) :=
  if encodedMark.isPrefixOf label then decodeLabel edition (label.drop encodedMark.length)
  else if labelAllowed edition label then some label
  else none

def asciiLabel (edition : Edition) (label : List Char) : Option (List Char) :=
  if isAscii label then some label
  else if edition == .unicode17 && longestPlain < label.length then none
  else (Punycode.encode label).map (encodedMark ++ ·)

def joinLabels (labels : List (List Char)) : List Char :=
  ['.'].intercalate labels

/-- The host name in ASCII; none if it is not a name that may be written so. -/
def toAscii (edition : Edition) (name : List Char) : Option (List Char) := do
  let name ← mapped edition name
  let plain ← ((Text.nfc name).splitOn '.').mapM (plainLabel edition)
  let labels := (joinLabels plain).splitOn '.'
  if plain.any isRightToLeft && !labels.all bidiRule then none
  else
    let ascii ← labels.mapM (asciiLabel edition)
    some (joinLabels ascii)

end UserAccounts.Host
