/-
# UTF-8

Texts as bytes and back. `encode` writes a text, `decode` reads one and, when
the bytes are not UTF-8, says where the first bad sequence starts and how long it
is; `decodeLossy` reads on. Overlong forms, surrogates and code points past U+10FFFF
are bad sequences.

Key definitions: `encode`, `decode`, `decodeLossy`, `Utf8.Defect`.
-/

namespace UserAccounts

/-- A sequence of bytes, such as a request body or a stored hash. -/
abbrev Bytes := List UInt8

namespace Utf8

/-- Where a byte sequence stops being UTF-8. -/
structure Defect where
  index : Nat
  /-- How many bytes the bad sequence spans; none when the input ends inside it. -/
  length : Option Nat
deriving DecidableEq, Repr

def Defect.message (d : Defect) : String :=
  match d.length with
  | some n => s!"invalid utf-8 sequence of {n} bytes from index {d.index}"
  | none => s!"incomplete utf-8 byte sequence from index {d.index}"

def encode (s : String) : Bytes :=
  s.toList.flatMap String.utf8EncodeChar

/-- A byte of the form `10xxxxxx`. -/
def isContinuation (b : UInt8) : Bool :=
  b &&& 0xC0 == 0x80

/-- The six low bits of a continuation byte. -/
def payload (b : UInt8) : Nat :=
  (b &&& 0x3F).toNat

/-- The bytes that may follow `lead` directly, when it starts a longer sequence: they leave
out overlong forms, surrogates and what lies past U+10FFFF. -/
def secondAllowed (lead second : UInt8) : Bool :=
  if lead == 0xE0 then 0xA0 ≤ second && second ≤ 0xBF
  else if lead == 0xED then 0x80 ≤ second && second ≤ 0x9F
  else if lead == 0xF0 then 0x90 ≤ second && second ≤ 0xBF
  else if lead == 0xF4 then 0x80 ≤ second && second ≤ 0x8F
  else isContinuation second

/-- Reads the rest of a sequence whose first byte `lead` is not ASCII: the character and the
number of further bytes it takes, or the length of the bad sequence. -/
def sequence (lead : UInt8) (rest : Bytes) : Except (Option Nat) (Char × Nat) :=
  if 0xC2 ≤ lead && lead ≤ 0xDF then
    match rest with
    | [] => .error none
    | b :: _ =>
      if isContinuation b then .ok (Char.ofNat ((lead &&& 0x1F).toNat * 64 + payload b), 1)
      else .error (some 1)
  else if 0xE0 ≤ lead && lead ≤ 0xEF then
    match rest with
    | [] => .error none
    | b :: more =>
      if !secondAllowed lead b then .error (some 1)
      else match more with
        | [] => .error none
        | c :: _ =>
          if isContinuation c then
            .ok (Char.ofNat (((lead &&& 0x0F).toNat * 64 + payload b) * 64 + payload c), 2)
          else .error (some 2)
  else if 0xF0 ≤ lead && lead ≤ 0xF4 then
    match rest with
    | [] => .error none
    | b :: more =>
      if !secondAllowed lead b then .error (some 1)
      else match more with
        | [] => .error none
        | c :: more =>
          if !isContinuation c then .error (some 2)
          else match more with
            | [] => .error none
            | d :: _ =>
              if isContinuation d then
                .ok (Char.ofNat
                  ((((lead &&& 0x07).toNat * 64 + payload b) * 64 + payload c) * 64 + payload d), 3)
              else .error (some 3)
  else .error (some 1)

/-- Reads characters up to the end, behind those already read (`acc`, last first). -/
def decodeFrom : Bytes → Nat → List Char → Except Defect (List Char)
  | [], _, acc => .ok acc.reverse
  | b :: rest, index, acc =>
    if b < 0x80 then decodeFrom rest (index + 1) (Char.ofNat b.toNat :: acc)
    else
      match sequence b rest with
      | .ok (c, used) => decodeFrom (rest.drop used) (index + 1 + used) (c :: acc)
      | .error n => .error ⟨index, n⟩
termination_by bytes => bytes.length
decreasing_by all_goals simp only [List.length_cons, List.length_drop]; omega

/-- The text that the bytes spell, or the first place where they spell none. -/
def decode (bytes : Bytes) : Except Defect String :=
  (decodeFrom bytes 0 []).map String.ofList

/-- The characters that the bytes spell, with U+FFFD for every bad sequence. -/
def decodeLossy : Bytes → List Char
  | [] => []
  | b :: rest =>
    if b < 0x80 then Char.ofNat b.toNat :: decodeLossy rest
    else
      match sequence b rest with
      | .ok (c, used) => c :: decodeLossy (rest.drop used)
      | .error (some n) => '\ufffd' :: decodeLossy (rest.drop (n - 1))
      | .error none => ['\ufffd']
termination_by bytes => bytes.length
decreasing_by all_goals simp only [List.length_cons, List.length_drop]; omega

end Utf8

end UserAccounts
