/-
# Places in a text

Lines are counted from one; the column is the number of bytes read since the last
line feed. A `Cursor` is a place together with what is still to be read.

Key definitions: `Position.advance`, `Cursor.skip`, `Cursor.peekPosition`.
-/
import UserAccounts.Text.Utf8

namespace UserAccounts.Json

/-- A place between two bytes of a text. -/
structure Position where
  line : Nat
  column : Nat
deriving DecidableEq, Repr

def Position.start : Position := ⟨1, 0⟩

def Position.advance (p : Position) (b : UInt8) : Position :=
  if b = 10 then ⟨p.line + 1, 0⟩ else ⟨p.line, p.column + 1⟩

/-- A place and the bytes behind it. -/
structure Cursor where
  rest : Bytes
  position : Position

def Cursor.start (text : Bytes) : Cursor := ⟨text, .start⟩

/-- The cursor `n` bytes further on. -/
def Cursor.skip : Nat → Cursor → Cursor
  | 0, c => c
  | _ + 1, ⟨[], p⟩ => ⟨[], p⟩
  | n + 1, ⟨b :: rest, p⟩ => Cursor.skip n ⟨rest, p.advance b⟩

def Cursor.next (c : Cursor) : Cursor :=
  c.skip 1

/-- The place behind the next byte, if there is one. -/
def Cursor.peekPosition (c : Cursor) : Position :=
  c.next.position

/-- A byte that may stand between tokens. -/
def isSpace (b : UInt8) : Bool :=
  b == 0x20 || b == 0x0A || b == 0x09 || b == 0x0D

/-- The cursor behind the spaces at the front. -/
def skipSpaceFrom : Bytes → Position → Cursor
  | [], p => ⟨[], p⟩
  | b :: rest, p => if isSpace b then skipSpaceFrom rest (p.advance b) else ⟨b :: rest, p⟩

def Cursor.skipSpace (c : Cursor) : Cursor :=
  skipSpaceFrom c.rest c.position

end UserAccounts.Json
