/-
# Parts of records are read as they are written

Texts and whole numbers within the limits of a field are read as they were written, where
nothing stands behind a number that could go on with it (`readText_written`,
`readIntegerOf_written`). So is a key, and the colon behind it (`exists_key_written`).

Key definitions: `Kind.toJson`, `Kind.Fits`.
Key theorems: `readText_written`, `readIntegerOf_written`, `exists_key_written`.
-/
import UserAccounts.Json.Record
import UserAccounts.Proofs.Json.Number
import UserAccounts.Proofs.Json.Text

namespace UserAccounts.Json

open Utf8 (bytesOf)

/-! ### Values -/

def Kind.toJson : (kind : Kind) → kind.Value → Json.Value
  | .text, s => .text s
  | .integer _, n => .number n

/-- The value lies within the limits of the kind. -/
def Kind.Fits : (kind : Kind) → kind.Value → Prop
  | .text, _ => True
  | .integer type, n => type.low ≤ n ∧ n ≤ type.high ∧ FitsWord n

theorem skipSpace_eq_self {b : UInt8} (h : isSpace b = false) (rest : Bytes) (p : Position) :
    (⟨b :: rest, p⟩ : Cursor).skipSpace = ⟨b :: rest, p⟩ := by
  show (if isSpace b = true then _ else _) = _
  rw [if_neg (by rw [h]; decide)]

theorem isSpace_of_digit {b : UInt8} (h : isDigitByte b = true) : isSpace b = false := by
  rw [Bool.eq_false_iff]
  intro hspace
  simp only [isSpace, Bool.or_eq_true, beq_iff_eq] at hspace
  rcases hspace with ((rfl | rfl) | rfl) | rfl <;> exact absurd h (by decide)

theorem exists_numeral_byte {chars : List Char} (h : IsNumeral chars) :
    ∃ b more, bytesOf chars = b :: more ∧ (b == 0x2D || isDigitByte b) = true ∧
      isSpace b = false := by
  obtain ⟨sign, whole, fraction, exponent, rfl, hsign, ⟨⟨hne, hdigits⟩, -⟩, -⟩ := h
  simp only [List.mem_cons, List.not_mem_nil, or_false] at hsign
  rcases hsign with rfl | rfl
  · obtain ⟨c, chars, rfl⟩ := List.exists_cons_of_ne_nil hne
    have hc : c.isDigit = true := hdigits c List.mem_cons_self
    have hdigit := isDigitByte_ofNat hc
    exact ⟨_, _, Utf8.bytesOf_cons_ascii (ascii_of_isDigit hc) _, by rw [hdigit, Bool.or_true],
      isSpace_of_digit hdigit⟩
  · exact ⟨0x2D, _, rfl, rfl, rfl⟩

theorem bytesOf_writeString (s : String) (rest : Bytes) :
    bytesOf (writeString s) ++ rest =
      0x22 :: (bytesOf (s.toList.flatMap escaped) ++ 0x22 :: rest) := by
  unfold writeString
  rw [List.cons_append, Utf8.bytesOf_cons_ascii (by decide), Utf8.bytesOf_append, List.cons_append,
    List.append_assoc]
  rfl

theorem readText_written (wanted s : String) (rest : Bytes) (p : Position) :
    ∃ q, readText wanted ⟨bytesOf (writeString s) ++ rest, p⟩ = .ok (s, ⟨rest, q⟩) := by
  rw [bytesOf_writeString]
  exact readString_written s rest (p.advance 0x22)

theorem readIntegerOf_written {type : IntegerType} {n : Int} (hlow : type.low ≤ n)
    (hhigh : n ≤ type.high) (hfits : FitsWord n) {rest : Bytes} (hrest : EndsNumeral rest)
    (p : Position) :
    ∃ q, readIntegerOf type ⟨bytesOf (Text.signed n) ++ rest, p⟩ = .ok (n, ⟨rest, q⟩) := by
  obtain ⟨q, hread⟩ := readNumber_written hfits hrest p
  obtain ⟨b, more, hwritten, hnumeral, hspace⟩ := exists_numeral_byte (isNumeral_signed n)
  rw [hwritten, List.cons_append] at hread ⊢
  refine ⟨q, ?_⟩
  unfold readIntegerOf
  rw [skipSpace_eq_self hspace]
  simp only
  rw [if_pos hnumeral, hread]
  simp only
  rw [if_pos (by simpa using ⟨hlow, hhigh⟩)]

/-! ### Keys -/

theorem nextKey_first {rest : Bytes} {p : Position} {key : String} {after : Cursor}
    (h : readString ⟨rest, p.advance 0x22⟩ = .ok (key, after)) :
    nextKey true ⟨0x22 :: rest, p⟩ = .ok (some (key, after)) :=
  congrArg (Except.map some) h

theorem nextKey_behind {rest : Bytes} {p : Position} {key : String} {after : Cursor}
    (h : readString ⟨rest, (p.advance 0x2C).advance 0x22⟩ = .ok (key, after)) :
    nextKey false ⟨0x2C :: 0x22 :: rest, p⟩ = .ok (some (key, after)) :=
  congrArg (Except.map some) h

theorem exists_key_written (key : String) (rest : Bytes) (p : Position) :
    ∃ afterKey q,
      readString ⟨bytesOf (key.toList.flatMap escaped) ++ 0x22 :: 0x3A :: rest, p⟩ =
        .ok (key, afterKey) ∧
      readColon afterKey = .ok ⟨rest, q⟩ := by
  obtain ⟨q, hkey⟩ := readString_written key (0x3A :: rest) p
  exact ⟨_, q.advance 0x3A, hkey, rfl⟩

end UserAccounts.Json
