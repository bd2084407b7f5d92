/-
# Passing over a value

The value of a member that nobody asked for may be anything, as deep as the text
is long. `skipValue` checks that it is well formed and gives the cursor behind it;
the lists and objects it is inside of wait on a stack.

Key definitions: `Nest`, `skipWord`, `skipValue`.
-/
import UserAccounts.Json.Number
import UserAccounts.Json.Text

namespace UserAccounts.Json

inductive Nest where
  | list
  | object
deriving DecidableEq, Repr

/-- The fault of a text that ends inside. -/
def Nest.atEnd : Nest → Fault
  | .list => .endInList
  | .object => .endInObject

/-- The fault of a byte behind a value that is neither a comma nor the closing bracket. -/
def Nest.wantsEnd : Nest → Fault
  | .list => .wantsListEnd
  | .object => .wantsObjectEnd

def Nest.close : Nest → UInt8
  | .list => 0x5D
  | .object => 0x7D

def skipWord : Bytes → Cursor → Except Problem Cursor
  | [], c => .ok c
  | letter :: letters, c =>
    match c.rest with
    | [] => .error (c.fault .endInValue)
    | b :: _ => if b == letter then skipWord letters c.next else .error (c.next.fault .wantsWord)

def nullTail : Bytes := [0x75, 0x6C, 0x6C]

def trueTail : Bytes := [0x72, 0x75, 0x65]

def falseTail : Bytes := [0x61, 0x6C, 0x73, 0x65]

def skipKey (c : Cursor) : Except Problem Cursor := do
  let c := c.skipSpace
  match c.rest with
  | [] => .error (c.faultAhead .endInObject)
  | b :: _ =>
    if b == 0x22 then
      let c ← skipString c.next
      let c := c.skipSpace
      match c.rest with
      | [] => .error (c.faultAhead .endInObject)
      | b :: _ => if b == 0x3A then .ok c.next else .error (c.faultAhead .wantsColon)
    else .error (c.faultAhead .keyNotString)

/-- The cursor behind the word, number or string at it, of which `b` is the first byte. -/
def skipScalar (b : UInt8) (c : Cursor) : Except Problem Cursor :=
  if b == 0x6E then skipWord nullTail c.next
  else if b == 0x74 then skipWord trueTail c.next
  else if b == 0x66 then skipWord falseTail c.next
  else if b == 0x22 then skipString c.next
  else if b == 0x2D || isDigitByte b then skipNumber c
  else .error (c.faultAhead .wantsValue)

/-- Where a walk through a value stands: before a value, or inside the innermost of `nests`, with
or without a value before. -/
inductive Stage where
  | before
  | inside (hasValue : Bool)

/-- Walks on until nothing encloses the cursor; `fuel` steps at most. -/
def walk : Nat → List Nest → Stage → Cursor → Except Problem Cursor
  | 0, _, _, c => .error (c.fault .endInValue)
  | _ + 1, [], .inside _, c => .ok c
  | fuel + 1, nests, .before, c =>
    let c := c.skipSpace
    match c.rest with
    | [] => .error (c.faultAhead .endInValue)
    | b :: _ =>
      if b == 0x5B then walk fuel (.list :: nests) (.inside false) c.next
      else if b == 0x7B then walk fuel (.object :: nests) (.inside false) c.next
      else match skipScalar b c with
        | .error p => .error p
        | .ok c => walk fuel nests (.inside true) c
  | fuel + 1, nest :: nests, .inside hasValue, c =>
    let c := c.skipSpace
    match c.rest with
    | [] => .error (c.faultAhead nest.atEnd)
    | b :: _ =>
      if b == nest.close then walk fuel nests (.inside true) c.next
      else if hasValue && b != 0x2C then .error (c.faultAhead nest.wantsEnd)
      else
        let c := if hasValue then c.next else c
        match nest with
        | .list => walk fuel (nest :: nests) .before c
        | .object =>
          match skipKey c with
          | .error p => .error p
          | .ok c => walk fuel (nest :: nests) .before c

def skipValue (c : Cursor) : Except Problem Cursor :=
  walk (2 * c.rest.length + 2) [] .before c

end UserAccounts.Json
