/-
# UTF-8 is read as it is written

A character is written as one byte below 128, or as a lead byte and one to three
continuation bytes, all of them 128 or more. Reading a character that was written
gives it back and goes on behind it (`decodeFrom_encodeChar`), so a text is read
from its bytes (`decode_encode`).

The bytes are sums: a lead byte is 192, 224 or 240 and the high bits of the
character, a continuation byte is 128 and six more bits. What reading finds out
about such sums is checked for each value of the bits.

Key definitions: `bytesOf`.
Key theorems: `exists_lead`, `decodeFrom_encodeChar`, `decode_encode`.
-/
import Mathlib.Logic.Basic
import UserAccounts.Text.Utf8

namespace UserAccounts.Utf8

/-! ### Bytes -/

theorem isContinuation_ofNat {n : Nat} (h : n < 64) : isContinuation (.ofNat (n + 128)) = true := by
  revert n
  decide

theorem payload_ofNat {n : Nat} (h : n < 64) : payload (.ofNat (n + 128)) = n := by
  revert n
  decide

theorem lead_two {n : Nat} (h : n < 32) (hlow : 2 ≤ n) :
    let lead := UInt8.ofNat (n + 192)
    (0xC2 ≤ lead && lead ≤ 0xDF) = true ∧ (lead &&& 0x1F).toNat = n := by
  revert n
  decide

theorem lead_three {n : Nat} (h : n < 16) :
    let lead := UInt8.ofNat (n + 224)
    (0xC2 ≤ lead && lead ≤ 0xDF) = false ∧ (0xE0 ≤ lead && lead ≤ 0xEF) = true ∧
      (lead &&& 0x0F).toNat = n := by
  revert n
  decide

theorem lead_four {n : Nat} (h : n < 5) :
    let lead := UInt8.ofNat (n + 240)
    (0xC2 ≤ lead && lead ≤ 0xDF) = false ∧ (0xE0 ≤ lead && lead ≤ 0xEF) = false ∧
      (0xF0 ≤ lead && lead ≤ 0xF4) = true ∧ (lead &&& 0x07).toNat = n := by
  revert n
  decide

theorem secondAllowed_three {n m : Nat} (hn : n < 16) (hm : m < 64) (hlong : n = 0 → 32 ≤ m)
    (hsurrogate : n = 13 → m < 32) :
    secondAllowed (.ofNat (n + 224)) (.ofNat (m + 128)) = true := by
  have hall : ∀ n < 16, ∀ m < 64, (n = 0 → 32 ≤ m) → (n = 13 → m < 32) →
      secondAllowed (.ofNat (n + 224)) (.ofNat (m + 128)) = true := by decide +kernel
  exact hall n hn m hm hlong hsurrogate

theorem secondAllowed_four {n m : Nat} (hn : n < 5) (hm : m < 64) (hlong : n = 0 → 16 ≤ m)
    (hpast : n = 4 → m < 16) :
    secondAllowed (.ofNat (n + 240)) (.ofNat (m + 128)) = true := by
  have hall : ∀ n < 5, ∀ m < 64, (n = 0 → 16 ≤ m) → (n = 4 → m < 16) →
      secondAllowed (.ofNat (n + 240)) (.ofNat (m + 128)) = true := by decide +kernel
  exact hall n hn m hm hlong hpast

/-! ### Sequences -/

theorem sequence_two {n m : Nat} (hn : n < 32) (hlow : 2 ≤ n) (hm : m < 64) (rest : Bytes) :
    sequence (.ofNat (n + 192)) (.ofNat (m + 128) :: rest) =
      .ok (Char.ofNat (n * 64 + m), 1) := by
  obtain ⟨hlead, hbits⟩ := lead_two hn hlow
  unfold sequence
  rw [if_pos hlead]
  simp only
  rw [if_pos (isContinuation_ofNat hm), hbits, payload_ofNat hm]

theorem sequence_three {n m k : Nat} (hn : n < 16) (hm : m < 64) (hlong : n = 0 → 32 ≤ m)
    (hsurrogate : n = 13 → m < 32) (hk : k < 64) (rest : Bytes) :
    sequence (.ofNat (n + 224)) (.ofNat (m + 128) :: .ofNat (k + 128) :: rest) =
      .ok (Char.ofNat ((n * 64 + m) * 64 + k), 2) := by
  obtain ⟨hnot, hlead, hbits⟩ := lead_three hn
  have hsecond := secondAllowed_three hn hm hlong hsurrogate
  unfold sequence
  rw [if_neg (Bool.eq_false_iff.mp hnot), if_pos hlead]
  simp only [hsecond, Bool.not_true]
  rw [if_neg (by decide), if_pos (isContinuation_ofNat hk), hbits, payload_ofNat hm,
    payload_ofNat hk]

theorem sequence_four {n m k l : Nat} (hn : n < 5) (hm : m < 64) (hlong : n = 0 → 16 ≤ m)
    (hpast : n = 4 → m < 16) (hk : k < 64) (hl : l < 64) (rest : Bytes) :
    sequence (.ofNat (n + 240))
        (.ofNat (m + 128) :: .ofNat (k + 128) :: .ofNat (l + 128) :: rest) =
      .ok (Char.ofNat (((n * 64 + m) * 64 + k) * 64 + l), 3) := by
  obtain ⟨hnot, hnot', hlead, hbits⟩ := lead_four hn
  have hsecond := secondAllowed_four hn hm hlong hpast
  have hthird := isContinuation_ofNat hk
  unfold sequence
  rw [if_neg (Bool.eq_false_iff.mp hnot), if_neg (Bool.eq_false_iff.mp hnot'), if_pos hlead]
  simp only [hsecond, hthird, Bool.not_true]
  rw [if_neg (by decide), if_neg (by decide), if_pos (isContinuation_ofNat hl), hbits,
    payload_ofNat hm, payload_ofNat hk, payload_ofNat hl]

/-! ### Characters -/

theorem le_ofNat {n : Nat} (hlow : 128 ≤ n) (hhigh : n < 256) : 0x80 ≤ UInt8.ofNat n := by
  rw [UInt8.le_iff_toNat_le, UInt8.toNat_ofNat_of_lt' hhigh]
  exact hlow

/-- A character past ASCII is written as a lead byte and others, all of them 128 or more, and is
read from them. -/
theorem exists_lead {c : Char} (h : 128 ≤ c.toNat) :
    ∃ lead more, String.utf8EncodeChar c = lead :: more ∧ (∀ b ∈ lead :: more, 0x80 ≤ b) ∧
      ∀ rest, sequence lead (more ++ rest) = .ok (c, more.length) := by
  have hvalid : c.toNat < 0xD800 ∨ (0xDFFF < c.toNat ∧ c.toNat < 0x110000) := c.valid
  have hchar : Char.ofNat c.toNat = c := Char.ofNat_toNat c
  have hwritten : String.utf8EncodeChar c = _ := String.utf8EncodeChar.eq_1 c
  rw [show c.val.toNat = c.toNat from rfl, if_neg (by omega)] at hwritten
  generalize c.toNat = v at *
  by_cases htwo : v ≤ 2047
  · rw [if_pos htwo] at hwritten
    refine ⟨_, _, hwritten, ?_, fun rest => ?_⟩
    · simp only [List.forall_mem_cons]
      exact ⟨le_ofNat (by omega) (by omega), le_ofNat (by omega) (by omega), by simp⟩
    · have hsum : v / 64 % 32 * 64 + v % 64 = v := by omega
      have hread := sequence_two (n := v / 64 % 32) (m := v % 64) (by omega) (by omega) (by omega) rest
      rw [hsum, hchar] at hread
      exact hread
  rw [if_neg htwo] at hwritten
  by_cases hthree : v ≤ 65535
  · rw [if_pos hthree] at hwritten
    refine ⟨_, _, hwritten, ?_, fun rest => ?_⟩
    · simp only [List.forall_mem_cons]
      exact ⟨le_ofNat (by omega) (by omega), le_ofNat (by omega) (by omega),
        le_ofNat (by omega) (by omega), by simp⟩
    · have hsum : (v / 4096 % 16 * 64 + v / 64 % 64) * 64 + v % 64 = v := by omega
      have hread := sequence_three (n := v / 4096 % 16) (m := v / 64 % 64) (k := v % 64) (by omega)
        (by omega) (by omega) (by omega) (by omega) rest
      rw [hsum, hchar] at hread
      exact hread
  · rw [if_neg hthree] at hwritten
    refine ⟨_, _, hwritten, ?_, fun rest => ?_⟩
    · simp only [List.forall_mem_cons]
      exact ⟨le_ofNat (by omega) (by omega), le_ofNat (by omega) (by omega),
        le_ofNat (by omega) (by omega), le_ofNat (by omega) (by omega), by simp⟩
    · have hsum : ((v / 262144 % 8 * 64 + v / 4096 % 64) * 64 + v / 64 % 64) * 64 + v % 64 = v := by
        omega
      have hread := sequence_four (n := v / 262144 % 8) (m := v / 4096 % 64) (k := v / 64 % 64)
        (l := v % 64) (by omega) (by omega) (by omega) (by omega) (by omega) (by omega) rest
      rw [hsum, hchar] at hread
      exact hread

theorem encodeChar_ascii {c : Char} (h : c.toNat < 128) :
    String.utf8EncodeChar c = [.ofNat c.toNat] := by
  unfold String.utf8EncodeChar
  rw [show c.val.toNat = c.toNat from rfl]
  exact if_pos (by omega)

/-- A character that was written is read, and reading goes on behind it. -/
theorem decodeFrom_encodeChar (c : Char) (rest : Bytes) (index : Nat) (acc : List Char) :
    decodeFrom (String.utf8EncodeChar c ++ rest) index acc =
      decodeFrom rest (index + (String.utf8EncodeChar c).length) (c :: acc) := by
  by_cases h : c.toNat < 128
  · have hsame : (UInt8.ofNat c.toNat).toNat = c.toNat :=
      UInt8.toNat_ofNat_of_lt' (Nat.lt_trans h (by decide))
    have hbyte : UInt8.ofNat c.toNat < 0x80 := by
      rw [UInt8.lt_iff_toNat_lt, hsame]
      exact h
    rw [encodeChar_ascii h, List.singleton_append, decodeFrom, if_pos hbyte, hsame,
      Char.ofNat_toNat]
    rfl
  · obtain ⟨lead, more, hwritten, hbytes, hread⟩ := exists_lead (Nat.le_of_not_lt h)
    have hlead : ¬ lead < 0x80 := UInt8.not_lt.mpr (hbytes lead List.mem_cons_self)
    rw [hwritten, List.cons_append, decodeFrom, if_neg hlead, hread]
    simp only [List.drop_left', List.length_cons]
    rw [Nat.add_assoc, Nat.add_comm 1]

/-! ### Texts -/

def bytesOf (chars : List Char) : Bytes :=
  chars.flatMap String.utf8EncodeChar

theorem encode_eq (s : String) : encode s = bytesOf s.toList := rfl

@[simp] theorem bytesOf_nil : bytesOf [] = [] := rfl

theorem bytesOf_cons (c : Char) (chars : List Char) :
    bytesOf (c :: chars) = String.utf8EncodeChar c ++ bytesOf chars := rfl

@[simp] theorem bytesOf_append (chars more : List Char) :
    bytesOf (chars ++ more) = bytesOf chars ++ bytesOf more :=
  List.flatMap_append

theorem bytesOf_cons_ascii {c : Char} (h : c.toNat < 128) (chars : List Char) :
    bytesOf (c :: chars) = .ofNat c.toNat :: bytesOf chars := by
  rw [bytesOf_cons, encodeChar_ascii h]
  rfl

theorem decodeFrom_bytesOf (chars : List Char) (index : Nat) (acc : List Char) :
    decodeFrom (bytesOf chars) index acc = .ok (acc.reverse ++ chars) := by
  induction chars generalizing index acc with
  | nil => simp [decodeFrom]
  | cons c chars ih =>
    rw [bytesOf_cons, decodeFrom_encodeChar, ih, List.reverse_cons, List.append_assoc]
    rfl

/-- **A text is read from its bytes.** -/
theorem decode_encode (s : String) : decode (encode s) = .ok s := by
  unfold decode
  rw [encode_eq, decodeFrom_bytesOf]
  show Except.ok (String.ofList s.toList) = _
  rw [String.ofList_toList]

end UserAccounts.Utf8
