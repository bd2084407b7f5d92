/-
# Reading any value

What a text spells if nothing is known of it beforehand: words, numbers, strings,
and lists and objects of them, as deep as `mostDepth`. The members of an object are
kept as they stand. A text that is not well formed, or too deep, spells nothing.

Key definitions: `Tree`, `readTree`, `readDocument`.
-/
import UserAccounts.Json.Record

namespace UserAccounts.Json

inductive Tree where
  | null
  | boolean (b : Bool)
  | number (n : Number)
  | text (s : String)
  | list (elements : List Tree)
  | object (members : List (String × Tree))

/-- The word, number or string at the cursor, of which `b` is the first byte. -/
def readScalar (b : UInt8) (c : Cursor) : Option (Tree × Cursor) :=
  if b == 0x6E then (skipWord nullTail c.next).toOption.map fun c => (.null, c)
  else if b == 0x74 then (skipWord trueTail c.next).toOption.map fun c => (.boolean true, c)
  else if b == 0x66 then (skipWord falseTail c.next).toOption.map fun c => (.boolean false, c)
  else if b == 0x22 then (readString c.next).toOption.map fun (s, c) => (.text s, c)
  else if b == 0x2D || isDigitByte b then
    (readNumber c).toOption.map fun (n, c) => (.number n, c)
  else none

section

variable (read : Cursor → Option (Tree × Cursor))

/-- The elements up to the end of a list, each read by `read`; `fuel` elements at most. -/
def elementsWith : Nat → Bool → Cursor → Option (List Tree × Cursor)
  | 0, _, _ => none
  | fuel + 1, first, c =>
    match nextElement first c with
    | .error _ => none
    | .ok none => some ([], c.skipSpace.next)
    | .ok (some c) => do
      let (element, c) ← read c
      let (elements, c) ← elementsWith fuel false c
      some (element :: elements, c)

/-- The members up to the end of an object, with their values read by `read`; `fuel` members at
most. -/
def membersWith : Nat → Bool → Cursor → Option (List (String × Tree) × Cursor)
  | 0, _, _ => none
  | fuel + 1, first, c =>
    match nextKey first c with
    | .error _ => none
    | .ok none => some ([], leaveObject c)
    | .ok (some (key, c)) => do
      let c ← (readColon c).toOption
      let (value, c) ← read c
      let (members, c) ← membersWith fuel false c
      some ((key, value) :: members, c)

end

/-- The value at the cursor, with at most `depth` lists and objects one inside the other. -/
def readTree (depth : Nat) (c : Cursor) : Option (Tree × Cursor) :=
  let c := c.skipSpace
  match c.rest with
  | [] => none
  | b :: _ =>
    if b == 0x5B then
      match depth with
      | 0 => none
      | depth + 1 =>
        (elementsWith (readTree depth) c.rest.length true c.next).map fun (elements, c) =>
          (.list elements, c)
    else if b == 0x7B then
      match depth with
      | 0 => none
      | depth + 1 =>
        (membersWith (readTree depth) c.rest.length true c.next).map fun (members, c) =>
          (.object members, c)
    else readScalar b c

def mostDepth : Nat := 127

def readDocument (text : Bytes) : Option Tree := do
  let (tree, c) ← readTree mostDepth (.start text)
  (endText c).toOption
  some tree

end UserAccounts.Json
