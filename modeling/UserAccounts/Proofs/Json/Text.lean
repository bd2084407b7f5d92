/-
# Strings are read as they are written

Between its quotes a string is written character by character, each as it is or
escaped. Reading takes up the bytes of a character that stands as it is one by one,
and those of an escape at once; either way it has found the bytes of the character,
and goes on behind them (`spelledFrom_escaped`). So a string is read as it was
written, whatever its characters and whatever follows (`readString_written`). It is
passed over in the same way (`skipString_written`).

Key definitions: `IsPlain`.
Key theorems: `plain_encodeChar`, `escape_escaped`, `spelledFrom_escaped`,
`readString_written`, `skipString_written`.
-/
import Mathlib.Tactic.SplitIfs
import UserAccounts.Json.Text
import UserAccounts.Json.Value
import UserAccounts.Proofs.Text.Utf8

namespace UserAccounts.Json

open Utf8 (bytesOf)

/-! ### Characters that stand as they are -/

/-- The byte stands for itself inside a string. -/
def IsPlain (b : UInt8) : Prop :=
  0x20 ≤ b ∧ b ≠ 0x22 ∧ b ≠ 0x5C

theorem isPlain_of_le {b : UInt8} (h : 0x80 ≤ b) : IsPlain b := by
  refine ⟨UInt8.le_trans (by decide) h, ?_, ?_⟩
  · rintro rfl
    exact absurd h (by decide)
  · rintro rfl
    exact absurd h (by decide)

theorem plain_encodeChar {c : Char} (h : 0x20 ≤ c.toNat) (hq : c ≠ '"') (hb : c ≠ '\\') :
    ∀ b ∈ String.utf8EncodeChar c, IsPlain b := by
  by_cases hascii : c.toNat < 128
  · have hsame : (UInt8.ofNat c.toNat).toNat = c.toNat :=
      UInt8.toNat_ofNat_of_lt' (Nat.lt_trans hascii (by decide))
    have hne : ∀ {d : Char}, c ≠ d → c.toNat ≠ d.toNat := by
      intro d hcd he
      exact hcd (by rw [← Char.ofNat_toNat c, he, Char.ofNat_toNat])
    rw [Utf8.encodeChar_ascii hascii]
    simp only [List.forall_mem_singleton, IsPlain, UInt8.le_iff_toNat_le, ne_eq,
      ← UInt8.toNat_inj, hsame]
    exact ⟨h, hne hq, hne hb⟩
  · obtain ⟨lead, more, hwritten, hbytes, -⟩ := Utf8.exists_lead (Nat.le_of_not_lt hascii)
    rw [hwritten]
    exact fun b hmem => isPlain_of_le (hbytes b hmem)

theorem spelledFrom_plain {bytes : Bytes} (h : ∀ b ∈ bytes, IsPlain b) (rest : Bytes)
    (p : Position) (acc : Bytes) :
    ∃ q, spelledFrom (bytes ++ rest) p acc = spelledFrom rest q (bytes.reverse ++ acc) := by
  induction bytes generalizing p acc with
  | nil => exact ⟨p, rfl⟩
  | cons b bytes ih =>
    obtain ⟨⟨hlow, hquote, hslash⟩, hrest⟩ := List.forall_mem_cons.mp h
    obtain ⟨q, hq⟩ := ih hrest (p.advance b) (b :: acc)
    refine ⟨q, ?_⟩
    rw [List.cons_append, spelledFrom, if_neg (by simpa using hquote),
      if_neg (by simpa using hslash), if_neg (UInt8.not_lt.mpr hlow), hq, List.reverse_cons,
      List.append_assoc]
    rfl

/-! ### Escapes -/

theorem escape_short {b : UInt8} {c : Char} (hb : b ≠ 0x75) (h : shortEscape? b = some c)
    (rest : Bytes) : escape (b :: rest) = .ok (c, 1) := by
  simp only [escape]
  rw [if_neg (by simpa using hb), h]

theorem escapeLength_short {b : UInt8} {c : Char} (hb : b ≠ 0x75) (h : shortEscape? b = some c)
    (rest : Bytes) : escapeLength (b :: rest) = .ok 1 := by
  simp only [escapeLength]
  rw [if_neg (by simpa using hb), h]
  rfl

theorem hexByte?_hexDigit {n : Nat} (h : n < 16) :
    hexByte? (.ofNat (Text.hexDigit n).toNat) = some n := by
  revert n
  decide

theorem hexDigit_ascii {n : Nat} (h : n < 16) : (Text.hexDigit n).toNat < 128 := by
  revert n
  decide

theorem bytesOf_control {n : Nat} (h : n < 0x20) :
    bytesOf ['u', '0', '0', Text.hexDigit (n / 16), Text.hexDigit (n % 16)] =
      [0x75, 0x30, 0x30, .ofNat (Text.hexDigit (n / 16)).toNat,
        .ofNat (Text.hexDigit (n % 16)).toNat] := by
  have hhigh : n / 16 < 16 := by omega
  have hlow : n % 16 < 16 := by omega
  rw [Utf8.bytesOf_cons_ascii (by decide), Utf8.bytesOf_cons_ascii (by decide),
    Utf8.bytesOf_cons_ascii (by decide), Utf8.bytesOf_cons_ascii (hexDigit_ascii hhigh),
    Utf8.bytesOf_cons_ascii (hexDigit_ascii hlow)]
  rfl

theorem escape_control {n : Nat} (h : n < 0x20) (rest : Bytes) :
    escape (bytesOf ['u', '0', '0', Text.hexDigit (n / 16), Text.hexDigit (n % 16)] ++ rest) =
      .ok (Char.ofNat n, 5) := by
  have hhigh := hexByte?_hexDigit (show n / 16 < 16 by omega)
  have hlow := hexByte?_hexDigit (show n % 16 < 16 by omega)
  have hzero : hexByte? 0x30 = some 0 := by decide
  have hsum : ((0 * 16 + 0) * 16 + n / 16) * 16 + n % 16 = n := by omega
  rw [bytesOf_control h]
  simp only [List.cons_append, List.nil_append, escape, fourDigits, hzero, hhigh, hlow, hsum]
  rw [if_pos (by decide)]
  simp only [later, Except.bind, bind]
  rw [if_neg (by simp; omega), if_neg (by simp; omega)]

theorem escapeLength_control {n : Nat} (h : n < 0x20) (rest : Bytes) :
    escapeLength (bytesOf ['u', '0', '0', Text.hexDigit (n / 16), Text.hexDigit (n % 16)] ++ rest) =
      .ok 5 := by
  have hhigh := hexByte?_hexDigit (show n / 16 < 16 by omega)
  have hlow := hexByte?_hexDigit (show n % 16 < 16 by omega)
  have hzero : hexByte? 0x30 = some 0 := by decide
  rw [bytesOf_control h]
  simp only [List.cons_append, List.nil_append, escapeLength, fourDigits, hzero, hhigh, hlow]
  rw [if_pos (by decide)]
  rfl

/-- A character that is escaped is the one that its escape stands for, and the escape is passed over
as a whole. -/
theorem escape_escaped {c : Char} (h : c = '"' ∨ c = '\\' ∨ c.toNat < 0x20) :
    ∃ more, escaped c = '\\' :: more ∧
      ∀ rest, escape (bytesOf more ++ rest) = .ok (c, (bytesOf more).length) ∧
        escapeLength (bytesOf more ++ rest) = .ok (bytesOf more).length := by
  have hshort : ∀ {b : UInt8} {c : Char}, b ≠ 0x75 → shortEscape? b = some c → ∀ rest : Bytes,
      escape (b :: rest) = .ok (c, 1) ∧ escapeLength (b :: rest) = .ok 1 :=
    fun hb hc rest => ⟨escape_short hb hc rest, escapeLength_short hb hc rest⟩
  unfold escaped
  split_ifs with hquote hslash hline hreturn htab hback hform hcontrol
  · subst hquote
    exact ⟨['"'], rfl, hshort (by decide) (by decide)⟩
  · subst hslash
    exact ⟨['\\'], rfl, hshort (by decide) (by decide)⟩
  · subst hline
    exact ⟨['n'], rfl, hshort (by decide) (by decide)⟩
  · subst hreturn
    exact ⟨['r'], rfl, hshort (by decide) (by decide)⟩
  · subst htab
    exact ⟨['t'], rfl, hshort (by decide) (by decide)⟩
  · subst hback
    exact ⟨['b'], rfl, hshort (by decide) (by decide)⟩
  · subst hform
    exact ⟨['f'], rfl, hshort (by decide) (by decide)⟩
  · refine ⟨_, rfl, fun rest => ⟨?_, ?_⟩⟩
    · rw [escape_control hcontrol, Char.ofNat_toNat, bytesOf_control hcontrol]
      rfl
    · rw [escapeLength_control hcontrol, bytesOf_control hcontrol]
      rfl
  · rcases h with h | h | h
    · exact absurd h hquote
    · exact absurd h hslash
    · exact absurd h hcontrol

theorem escaped_eq_self {c : Char} (hquote : c ≠ '"') (hslash : c ≠ '\\')
    (hcontrol : 0x20 ≤ c.toNat) : escaped c = [c] := by
  unfold escaped
  rw [if_neg hquote, if_neg hslash]
  split_ifs with hline hreturn htab hback hform hlow
  · exact absurd (hline ▸ hcontrol) (by decide)
  · exact absurd (hreturn ▸ hcontrol) (by decide)
  · exact absurd (htab ▸ hcontrol) (by decide)
  · exact absurd (hback ▸ hcontrol) (by decide)
  · exact absurd (hform ▸ hcontrol) (by decide)
  · omega
  · rfl

/-! ### Strings -/

theorem spelledFrom_escaped (c : Char) (rest : Bytes) (p : Position) (acc : Bytes) :
    ∃ q, spelledFrom (bytesOf (escaped c) ++ rest) p acc =
      spelledFrom rest q ((String.utf8EncodeChar c).reverse ++ acc) := by
  by_cases h : c = '"' ∨ c = '\\' ∨ c.toNat < 0x20
  · obtain ⟨more, hescaped, hescape⟩ := escape_escaped h
    rw [hescaped, Utf8.bytesOf_cons_ascii (by decide), List.cons_append, spelledFrom,
      if_neg (by decide), if_pos (by decide), (hescape rest).1]
    simp only [List.drop_left']
    exact ⟨_, rfl⟩
  · obtain ⟨hquote, hslash, hcontrol⟩ : c ≠ '"' ∧ c ≠ '\\' ∧ ¬ c.toNat < 0x20 := by
      simpa only [not_or] using h
    have hlow : 0x20 ≤ c.toNat := Nat.le_of_not_lt hcontrol
    rw [escaped_eq_self hquote hslash hlow, Utf8.bytesOf_cons, Utf8.bytesOf_nil, List.append_nil]
    exact spelledFrom_plain (plain_encodeChar hlow hquote hslash) rest p acc

theorem spelledFrom_written (chars : List Char) (rest : Bytes) (p : Position) (acc : Bytes) :
    ∃ q, spelledFrom (bytesOf (chars.flatMap escaped) ++ 0x22 :: rest) p acc =
      .ok (acc.reverse ++ bytesOf chars, ⟨rest, q⟩) := by
  induction chars generalizing p acc with
  | nil =>
    refine ⟨p.advance 0x22, ?_⟩
    rw [List.flatMap_nil, Utf8.bytesOf_nil, List.nil_append, spelledFrom, if_pos (by decide),
      List.append_nil]
  | cons c chars ih =>
    rw [List.flatMap_cons, Utf8.bytesOf_append, List.append_assoc]
    obtain ⟨q, hq⟩ := spelledFrom_escaped c
      (bytesOf (chars.flatMap escaped) ++ 0x22 :: rest) p acc
    obtain ⟨q', hq'⟩ := ih q ((String.utf8EncodeChar c).reverse ++ acc)
    refine ⟨q', ?_⟩
    rw [hq, hq', List.reverse_append, List.reverse_reverse, List.append_assoc]
    rfl

/-- **A string is read as it was written.** -/
theorem readString_written (s : String) (rest : Bytes) (p : Position) :
    ∃ q, readString ⟨bytesOf (s.toList.flatMap escaped) ++ 0x22 :: rest, p⟩ =
      .ok (s, ⟨rest, q⟩) := by
  obtain ⟨q, hq⟩ := spelledFrom_written s.toList rest p []
  refine ⟨q, ?_⟩
  unfold readString
  simp only [hq, List.reverse_nil, List.nil_append, ← Utf8.encode_eq, Except.bind, bind]
  rw [Utf8.decode_encode]

/-! ### Strings that are passed over -/

theorem skipStringFrom_plain {bytes : Bytes} (h : ∀ b ∈ bytes, IsPlain b) (rest : Bytes)
    (p : Position) : ∃ q, skipStringFrom (bytes ++ rest) p = skipStringFrom rest q := by
  induction bytes generalizing p with
  | nil => exact ⟨p, rfl⟩
  | cons b bytes ih =>
    obtain ⟨⟨hlow, hquote, hslash⟩, hrest⟩ := List.forall_mem_cons.mp h
    obtain ⟨q, hq⟩ := ih hrest (p.advance b)
    refine ⟨q, ?_⟩
    rw [List.cons_append, skipStringFrom, if_neg (by simpa using hquote),
      if_neg (by simpa using hslash), if_neg (UInt8.not_lt.mpr hlow), hq]

theorem skipStringFrom_escaped (c : Char) (rest : Bytes) (p : Position) :
    ∃ q, skipStringFrom (bytesOf (escaped c) ++ rest) p = skipStringFrom rest q := by
  by_cases h : c = '"' ∨ c = '\\' ∨ c.toNat < 0x20
  · obtain ⟨more, hescaped, hescape⟩ := escape_escaped h
    rw [hescaped, Utf8.bytesOf_cons_ascii (by decide), List.cons_append, skipStringFrom,
      if_neg (by decide), if_pos (by decide), (hescape rest).2]
    simp only [List.drop_left']
    exact ⟨_, rfl⟩
  · obtain ⟨hquote, hslash, hcontrol⟩ : c ≠ '"' ∧ c ≠ '\\' ∧ ¬ c.toNat < 0x20 := by
      simpa only [not_or] using h
    have hlow : 0x20 ≤ c.toNat := Nat.le_of_not_lt hcontrol
    rw [escaped_eq_self hquote hslash hlow, Utf8.bytesOf_cons, Utf8.bytesOf_nil, List.append_nil]
    exact skipStringFrom_plain (plain_encodeChar hlow hquote hslash) rest p

/-- **A string is passed over as a whole.** -/
theorem skipString_written (chars : List Char) (rest : Bytes) (p : Position) :
    ∃ q, skipString ⟨bytesOf (chars.flatMap escaped) ++ 0x22 :: rest, p⟩ = .ok ⟨rest, q⟩ := by
  show ∃ q, skipStringFrom (bytesOf (chars.flatMap escaped) ++ 0x22 :: rest) p = .ok ⟨rest, q⟩
  induction chars generalizing p with
  | nil =>
    refine ⟨p.advance 0x22, ?_⟩
    rw [List.flatMap_nil, Utf8.bytesOf_nil, List.nil_append, skipStringFrom, if_pos (by decide)]
  | cons c chars ih =>
    obtain ⟨q, hq⟩ := skipStringFrom_escaped c (bytesOf (chars.flatMap escaped) ++ 0x22 :: rest) p
    obtain ⟨q', hq'⟩ := ih q
    refine ⟨q', ?_⟩
    rw [List.flatMap_cons, Utf8.bytesOf_append, List.append_assoc, hq, hq']

end UserAccounts.Json
