/-
# What can be wrong with a JSON text

A text may be malformed (`Fault`), or well formed and not what was asked for
(`Mismatch`). A `Problem` is one of the two at a place, and remembers in which
member or element of the outermost value it arose.

Key definitions: `Fault.message`, `Mismatch.message`, `Problem.message`,
`Problem.messageWithPart`.
-/
import UserAccounts.Decimal.Shortest
import UserAccounts.Json.Position
import UserAccounts.Text.Quoted

namespace UserAccounts.Json

inductive Fault where
  | endInValue
  | endInList
  | endInObject
  | endInString
  | wantsColon
  | wantsListEnd
  | wantsObjectEnd
  | wantsWord
  | wantsValue
  | badEscape
  | badNumber
  | numberTooLarge
  | badCodePoint
  | controlCharacter
  | keyNotString
  | loneSurrogate
  | halfSurrogate
  | trailingComma
  | trailingCharacters
deriving DecidableEq, Repr

def Fault.message : Fault → String
  | .endInValue => "EOF while parsing a value"
  | .endInList => "EOF while parsing a list"
  | .endInObject => "EOF while parsing an object"
  | .endInString => "EOF while parsing a string"
  | .wantsColon => "expected `:`"
  | .wantsListEnd => "expected `,` or `]`"
  | .wantsObjectEnd => "expected `,` or `\x7d`"
  | .wantsWord => "expected ident"
  | .wantsValue => "expected value"
  | .badEscape => "invalid escape"
  | .badNumber => "invalid number"
  | .numberTooLarge => "number out of range"
  | .badCodePoint => "invalid unicode code point"
  | .controlCharacter => "control character (\\u0000-\\u001F) found while parsing a string"
  | .keyNotString => "key must be a string"
  | .loneSurrogate => "lone leading surrogate in hex escape"
  | .halfSurrogate => "unexpected end of hex escape"
  | .trailingComma => "trailing comma"
  | .trailingCharacters => "trailing characters"

inductive Found where
  | null
  | boolean (b : Bool)
  | integer (n : Int)
  | floating (b : Decimal.Binary)
  | text (s : String)
  | list
  | object
deriving DecidableEq, Repr

/-- Numbers with a fraction are written positionally from 10⁻⁵ up to below 10¹⁶. -/
def floatLayout : Decimal.Layout := ⟨-5, 15, 1⟩

def Found.message : Found → String
  | .null => "null"
  | .boolean b => s!"boolean `{b}`"
  | .integer n => s!"integer `{n}`"
  | .floating b => "floating point `" ++ String.ofList (b.toText floatLayout) ++ "`"
  | .text s => "string " ++ Text.quoted s
  | .list => "sequence"
  | .object => "map"

inductive Mismatch where
  | wrongType (found : Found) (wanted : String)
  | wrongValue (found : Found) (wanted : String)
  | wrongLength (found : Nat) (wanted : String)
  | unknownVariant (found : String) (known : List String)
  | missingField (name : String)
  | duplicateField (name : String)
deriving DecidableEq, Repr

def Mismatch.message : Mismatch → String
  | .wrongType found wanted => s!"invalid type: {found.message}, expected {wanted}"
  | .wrongValue found wanted => s!"invalid value: {found.message}, expected {wanted}"
  | .wrongLength found wanted => s!"invalid length {found}, expected {wanted}"
  | .unknownVariant found known =>
    "unknown variant `" ++ found ++ "`, expected one of " ++
      ", ".intercalate (known.map fun name => "`" ++ name ++ "`")
  | .missingField name => "missing field `" ++ name ++ "`"
  | .duplicateField name => "duplicate field `" ++ name ++ "`"

inductive Cause where
  | malformed (fault : Fault)
  | mismatched (mismatch : Mismatch)
deriving DecidableEq, Repr

def Cause.message : Cause → String
  | .malformed fault => fault.message
  | .mismatched mismatch => mismatch.message

inductive Part where
  | member (key : String)
  | element (index : Nat)
deriving DecidableEq, Repr

def Part.toText : Part → String
  | .member key => key
  | .element index => s!"[{index}]"

/-- What is wrong, where, and in which part of the outermost value, if in one. -/
structure Problem where
  cause : Cause
  position : Position
  part : Option Part := none
deriving DecidableEq, Repr

/-- The words for a problem, with line and column. -/
def Problem.message (p : Problem) : String :=
  s!"{p.cause.message} at line {p.position.line} column {p.position.column}"

/-- The words for a problem behind the part in which it arose. -/
def Problem.messageWithPart (p : Problem) : String :=
  match p.part with
  | none => p.message
  | some part => s!"{part.toText}: {p.message}"

def Cursor.fault (c : Cursor) (f : Fault) : Problem :=
  { cause := .malformed f, position := c.position }

/-- A fault at the byte behind the cursor. -/
def Cursor.faultAhead (c : Cursor) (f : Fault) : Problem :=
  { cause := .malformed f, position := c.peekPosition }

def Cursor.mismatch (c : Cursor) (m : Mismatch) : Problem :=
  { cause := .mismatched m, position := c.position }

end UserAccounts.Json
