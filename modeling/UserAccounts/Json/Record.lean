/-
# Reading a record

A record is written as an object with its fields as members, in any order and
among members that nobody asked for, or as a list of its fields in order. Each
field is a text or a whole number of a type with limits; `Shape` lists them, and
`readRecord` gives their values in the order of the shape. A field may not be
missing and not be given twice. `readVariant` reads one of a set of names.

The members are read from left to right and the first problem counts; a field
that is missing is noticed at the end of the object.

Key definitions: `Kind`, `Shape`, `readRecord`, `readLeadingRecord`, `readVariant`.
-/
import UserAccounts.Json.Skip

namespace UserAccounts.Json

structure IntegerType where
  name : String
  low : Int
  high : Int
deriving DecidableEq, Repr

def word16 : IntegerType := ⟨"u16", 0, UInt16.size - 1⟩

def word32 : IntegerType := ⟨"u32", 0, UInt32.size - 1⟩

def signed64 : IntegerType := ⟨"i64", Int64.minValue.toInt, Int64.maxValue.toInt⟩

inductive Kind where
  | text
  | integer (type : IntegerType)
deriving DecidableEq, Repr

def Kind.wanted : Kind → String
  | .text => "a string"
  | .integer type => type.name

abbrev Kind.Value : Kind → Type
  | .text => String
  | .integer _ => Int

/-- The fields of a record, in order, and its name. -/
structure Shape where
  name : String
  fields : List (String × Kind)
deriving DecidableEq, Repr

def Shape.wanted (s : Shape) : String :=
  s!"struct {s.name}"

def Shape.wantedElements (s : Shape) : String :=
  s!"struct {s.name} with {s.fields.length} elements"

abbrev Values : List (String × Kind) → Type
  | [] => Unit
  | (_, kind) :: fields => kind.Value × Values fields

/-! ### Values -/

def wrongType (wanted : String) (c : Cursor) : Problem :=
  let found (c : Cursor) (f : Found) := c.mismatch (.wrongType f wanted)
  let after (f : Found) : Except Problem Cursor → Problem
    | .ok c => found c f
    | .error p => p
  match c.rest with
  | [] => c.faultAhead .wantsValue
  | b :: _ =>
    if b == 0x6E then after .null (skipWord nullTail c.next)
    else if b == 0x74 then after (.boolean true) (skipWord trueTail c.next)
    else if b == 0x66 then after (.boolean false) (skipWord falseTail c.next)
    else if b == 0x2D || isDigitByte b then
      match readNumber c with
      | .ok (n, c) => found c n.found
      | .error p => p
    else if b == 0x22 then
      match readString c.next with
      | .ok (s, c) => found c (.text s)
      | .error p => p
    else if b == 0x5B then found c .list
    else if b == 0x7B then found c .object
    else c.faultAhead .wantsValue

/-- The text at the cursor; `wanted` names it if something else stands there. -/
def readText (wanted : String) (c : Cursor) : Except Problem (String × Cursor) :=
  let c := c.skipSpace
  match c.rest with
  | [] => .error (c.faultAhead .endInValue)
  | b :: _ => if b == 0x22 then readString c.next else .error (wrongType wanted c)

def readIntegerOf (type : IntegerType) (c : Cursor) : Except Problem (Int × Cursor) :=
  let c := c.skipSpace
  match c.rest with
  | [] => .error (c.faultAhead .endInValue)
  | b :: _ =>
    if b == 0x2D || isDigitByte b then
      match readNumber c with
      | .error p => .error p
      | .ok (.integer n, c) =>
        if type.low ≤ n && n ≤ type.high then .ok (n, c)
        else .error (c.mismatch (.wrongValue (.integer n) type.name))
      | .ok (.floating f, c) =>
        .error (c.mismatch (.wrongType (Number.floating f).found type.name))
    else .error (wrongType type.name c)

def Kind.read : (kind : Kind) → Cursor → Except Problem (kind.Value × Cursor)
  | .text, c => readText "a string" c
  | .integer type, c => readIntegerOf type c

/-- Notes in which part of the outermost value a problem arose. -/
def inPart {α : Type} (part : Part) : Except Problem α → Except Problem α
  | .ok a => .ok a
  | .error p => .error { p with part := some part }

/-! ### Lists -/

/-- The cursor before the next element of a list, or none at its end. -/
def nextElement (first : Bool) (c : Cursor) : Except Problem (Option Cursor) :=
  let c := c.skipSpace
  match c.rest with
  | [] => .error (c.faultAhead .endInList)
  | b :: _ =>
    if b == 0x5D then .ok none
    else if first then .ok (some c)
    else if b == 0x2C then
      let c := c.next.skipSpace
      match c.rest with
      | [] => .error (c.faultAhead .endInValue)
      | d :: _ => if d == 0x5D then .error (c.faultAhead .trailingComma) else .ok (some c)
    else .error (c.faultAhead .wantsListEnd)

def endList (c : Cursor) : Except Problem Cursor :=
  let c := c.skipSpace
  match c.rest with
  | [] => .error (c.faultAhead .endInList)
  | b :: _ =>
    if b == 0x5D then .ok c.next
    else if b == 0x2C then
      let c := c.next.skipSpace
      if c.rest.head? == some 0x5D then .error (c.faultAhead .trailingComma)
      else .error (c.faultAhead .trailingCharacters)
    else .error (c.faultAhead .trailingCharacters)

/-- The fields of a record given as a list, of which `index` are read. -/
def readElements (shape : Shape) :
    (fields : List (String × Kind)) → Nat → Cursor → Except Problem (Values fields × Cursor)
  | [], _, c => (endList c).map fun c => ((), c)
  | (_, kind) :: fields, index, c =>
    match nextElement (index == 0) c with
    | .error p => .error p
    | .ok none =>
      .error (c.skipSpace.next.mismatch (.wrongLength index shape.wantedElements))
    | .ok (some c) =>
      match inPart (.element index) (kind.read c) with
      | .error p => .error p
      | .ok (value, c) =>
        match readElements shape fields (index + 1) c with
        | .error p => .error p
        | .ok (values, c) => .ok ((value, values), c)

/-! ### Objects -/

/-- The key of the next member of an object and the cursor behind it, or none at its end. -/
def nextKey (first : Bool) (c : Cursor) : Except Problem (Option (String × Cursor)) :=
  let c := c.skipSpace
  match c.rest with
  | [] => .error (c.faultAhead .endInObject)
  | b :: _ =>
    if b == 0x7D then .ok none
    else if first then
      if b == 0x22 then (readString c.next).map some else .error (c.faultAhead .keyNotString)
    else if b == 0x2C then
      let c := c.next.skipSpace
      match c.rest with
      | [] => .error (c.faultAhead .endInValue)
      | d :: _ =>
        if d == 0x22 then (readString c.next).map some
        else if d == 0x7D then .error (c.faultAhead .trailingComma)
        else .error (c.faultAhead .keyNotString)
    else .error (c.faultAhead .wantsObjectEnd)

def readColon (c : Cursor) : Except Problem Cursor :=
  let c := c.skipSpace
  match c.rest with
  | [] => .error (c.faultAhead .endInObject)
  | b :: _ => if b == 0x3A then .ok c.next else .error (c.faultAhead .wantsColon)

/-- The values found so far for some fields. -/
abbrev Slots : List (String × Kind) → Type
  | [] => Unit
  | (_, kind) :: fields => Option kind.Value × Slots fields

def Slots.empty : (fields : List (String × Kind)) → Slots fields
  | [] => ()
  | _ :: fields => (none, Slots.empty fields)

/-- What to do with the member `key`: put its value into an empty slot, refuse it because the slot
is taken, or pass over it. -/
inductive Slots.Place (fields : List (String × Kind)) where
  | fill (kind : Kind) (put : kind.Value → Slots fields)
  | taken
  | unknown

def Slots.place (key : String) :
    (fields : List (String × Kind)) → Slots fields → Slots.Place fields
  | [], _ => .unknown
  | (name, kind) :: fields, (slot, slots) =>
    if key = name then
      match slot with
      | none => .fill kind fun value => (some value, slots)
      | some _ => .taken
    else
      match Slots.place key fields slots with
      | .fill kind put => .fill kind fun value => (slot, put value)
      | .taken => .taken
      | .unknown => .unknown

/-- The values of all fields, or the name of the first that is missing. -/
def Slots.values : (fields : List (String × Kind)) → Slots fields → Except String (Values fields)
  | [], _ => .ok ()
  | (name, _) :: fields, (slot, slots) =>
    match slot with
    | none => .error name
    | some value =>
      match Slots.values fields slots with
      | .error missing => .error missing
      | .ok values => .ok (value, values)

/-- Where a reader stands that has given up on an object for a reason of its own: it still passes
over the spaces before the next byte, and over the end of the object if this is it. -/
def leaveObject (c : Cursor) : Cursor :=
  let c := c.skipSpace
  if c.rest.head? == some 0x7D then c.next else c

/-- Reads members into slots up to the end of the object; `fuel` members at most. -/
def readMembers (fields : List (String × Kind)) :
    Nat → Bool → Slots fields → Cursor → Except Problem (Values fields × Cursor)
  | 0, _, _, c => .error (c.fault .endInObject)
  | fuel + 1, first, slots, c =>
    match nextKey first c with
    | .error p => .error p
    | .ok none =>
      let after := leaveObject c
      match Slots.values fields slots with
      | .error missing => .error (after.mismatch (.missingField missing))
      | .ok values => .ok (values, after)
    | .ok (some (key, c)) =>
      match Slots.place key fields slots with
      | .taken => .error ((leaveObject c).mismatch (.duplicateField key))
      | .fill kind put =>
        match readColon c with
        | .error p => .error p
        | .ok c =>
          match inPart (.member key) (kind.read c) with
          | .error p => .error p
          | .ok (value, c) => readMembers fields fuel false (put value) c
      | .unknown =>
        match readColon c with
        | .error p => .error p
        | .ok c =>
          match inPart (.member key) (skipValue c) with
          | .error p => .error p
          | .ok c => readMembers fields fuel false slots c

/-! ### Records and variants -/

def endText (c : Cursor) : Except Problem Unit :=
  let c := c.skipSpace
  if c.rest.isEmpty then .ok () else .error (c.faultAhead .trailingCharacters)

def readRecordHere (shape : Shape) (c : Cursor) :
    Except Problem (Values shape.fields × Cursor) :=
  let c := c.skipSpace
  match c.rest with
  | [] => .error (c.faultAhead .endInValue)
  | b :: _ =>
    if b == 0x5B then readElements shape shape.fields 0 c.next
    else if b == 0x7B then
      readMembers shape.fields c.rest.length true (Slots.empty shape.fields) c.next
    else .error (wrongType shape.wanted c)

/-- The values of the fields of a record that a text spells. -/
def readRecord (shape : Shape) (text : Bytes) : Except Problem (Values shape.fields) := do
  let (values, c) ← readRecordHere shape (.start text)
  endText c
  .ok values

/-- The values of the fields of a record that a text begins with, whatever follows it. -/
def readLeadingRecord (shape : Shape) (text : Bytes) : Except Problem (Values shape.fields) :=
  (readRecordHere shape (.start text)).map (·.1)

/-- The name at the cursor, which has to be one of `known`. -/
def readName (known : List String) (c : Cursor) : Except Problem (String × Cursor) := do
  let (name, c) ← readText "variant identifier" c
  if known.contains name then .ok (name, c)
  else .error (c.mismatch (.unknownVariant name known))

/-- The name that an object has as its first key. -/
def readKeyName (known : List String) (c : Cursor) : Except Problem (String × Cursor) :=
  let c := c.skipSpace
  match c.rest with
  | [] => .error (c.faultAhead .endInObject)
  | b :: _ =>
    if b == 0x22 then readName known c
    else if b == 0x7D then .error (c.faultAhead .wantsValue)
    else .error (c.faultAhead .keyNotString)

def readNull (c : Cursor) : Except Problem Cursor :=
  let c := c.skipSpace
  match c.rest with
  | [] => .error (c.faultAhead .endInValue)
  | b :: _ => if b == 0x6E then skipWord nullTail c.next else .error (wrongType "unit" c)

/-- One of a set of names, given as a string, or as the key of an object whose one member is
null. -/
def readVariant (known : List String) (text : Bytes) : Except Problem String := do
  let c := (Cursor.start text).skipSpace
  let (name, c) ← match c.rest with
    | [] => .error (c.faultAhead .endInValue)
    | b :: _ =>
      if b == 0x7B then do
        let (name, c) ← readKeyName known c.next
        let c ← readColon c
        let c ← readNull c
        let c := c.skipSpace
        match c.rest with
        | [] => .error (c.fault .endInObject)
        | b :: _ => if b == 0x7D then .ok (name, c.next) else .error (c.fault .wantsValue)
      else if b == 0x22 then readName known c
      else .error (c.faultAhead .wantsValue)
  endText c
  .ok name

end UserAccounts.Json
