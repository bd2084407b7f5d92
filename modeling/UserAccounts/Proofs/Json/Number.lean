/-
# Whole numbers are read as they are written

A whole number is written with decimal digits, behind a minus sign if it is
negative, and without zeros in front. Reading takes up all its digits and no more, so it
is read as it was written (`readNumber_written`) if it fits 64 bits. No other spelling of
a number is read as a whole number (`integer_of_readNumber`): with a fraction or an
exponent, or as a zero behind a minus sign, it is read as a double.

Key definitions: `FitsWord`.
Key theorems: `gather_digits`, `readNumber_written`, `integer_of_readNumber`.
-/
import UserAccounts.Proofs.Json.Numeral

namespace UserAccounts

namespace Json

open Utf8 (bytesOf)

theorem le_ofDigitChars (chars : List Char) (n : Nat) : n ≤ Nat.ofDigitChars 10 chars n := by
  induction chars generalizing n with
  | nil => exact Nat.le_refl n
  | cons c chars ih =>
    rw [Nat.ofDigitChars_cons]
    exact Nat.le_trans (by omega) (ih _)

theorem gather_digits (chars : List Char) (n taken : Nat)
    (h : Nat.ofDigitChars 10 chars n ≤ maxWord) :
    gather (chars.map digitValue) n taken =
      (Nat.ofDigitChars 10 chars n, taken + chars.length, 0) := by
  induction chars generalizing n taken with
  | nil => rfl
  | cons c chars ih =>
    rw [Nat.ofDigitChars_cons] at h ⊢
    have hsame : n * 10 + digitValue c = 10 * n + (c.toNat - '0'.toNat) := by
      rw [Nat.mul_comm]
      rfl
    have hfits := le_ofDigitChars chars (10 * n + (c.toNat - '0'.toNat))
    rw [List.map_cons, gather, hsame, if_neg (by omega), ih _ _ h, List.length_cons]
    congr 2
    omega

/-! ### Numbers -/

/-- The whole numbers of 64 bits, with or without sign. -/
def FitsWord (n : Int) : Prop :=
  -(UInt64.size / 2 : Nat) ≤ n ∧ n ≤ maxWord

section

variable {numeral : Numeral} {negative : Bool}

theorem Numeral.Tells.value_written {n : Nat}
    (htells : numeral.Tells negative (Text.decimal n) [] []) (h : n ≤ maxWord)
    (hn : negative = true → 0 < n ∧ n ≤ UInt64.size / 2) (after : Cursor) :
    numeral.value after = .ok (.integer (if negative then -(n : Int) else n)) := by
  obtain ⟨sign, whole, fraction, exponent⟩ := numeral
  obtain ⟨rfl, rfl, hfraction, hexponent⟩ := htells
  obtain rfl : fraction = [] := hfraction.mpr rfl
  obtain rfl : exponent = none := hexponent.mpr rfl
  have hsum : Nat.ofDigitChars 10 (Text.decimal n) 0 = n :=
    Nat.ofDigitChars_toDigits (by decide) (by decide)
  have hgather := gather_digits (Text.decimal n) 0 0 (by rw [hsum]; exact h)
  rw [hsum] at hgather
  unfold Numeral.value
  rw [hgather]
  cases sign with
  | false => rfl
  | true =>
    simp only [List.isEmpty_nil, Option.isNone_none, Bool.and_self, beq_self_eq_true, Bool.not_true,
      if_true]
    rw [if_neg (by decide), if_pos (by simpa using hn rfl)]

theorem gather_of_none_left (chars : List Char) {n taken value count : Nat} (hn : n ≤ maxWord)
    (h : gather (chars.map digitValue) n taken = (value, count, 0)) :
    value = Nat.ofDigitChars 10 chars n ∧ value ≤ maxWord := by
  induction chars generalizing n taken with
  | nil =>
    obtain ⟨rfl, -⟩ := Prod.mk.inj h
    exact ⟨rfl, hn⟩
  | cons c chars ih =>
    have hsame : n * 10 + digitValue c = 10 * n + (c.toNat - '0'.toNat) := by
      rw [Nat.mul_comm]
      rfl
    rw [List.map_cons, gather] at h
    by_cases hlarge : maxWord < n * 10 + digitValue c
    · rw [if_pos hlarge] at h
      simp at h
    · rw [if_neg hlarge] at h
      rw [Nat.ofDigitChars_cons, ← hsame]
      exact ih (Nat.le_of_not_lt hlarge) h

theorem floatOf_ne_integer (sign : Bool) (n : Nat) (e : Int) (after : Cursor) (k : Int) :
    floatOf sign n e after ≠ .ok (.integer k) := by
  unfold floatOf
  cases scaleFloat n.toUInt64.toFloat e <;> simp

/-- What is understood as a whole number has neither a fraction nor an exponent, and all its digits
are taken. -/
theorem Numeral.plain_of_value {after : Cursor} {n : Int} {value count left : Nat}
    (hgather : gather numeral.whole 0 0 = (value, count, left))
    (hvalue : numeral.value after = .ok (.integer n)) :
    (numeral.fraction = [] ∧ numeral.exponent = none ∧ left = 0) ∧
      (if numeral.negative then (0 < value ∧ value ≤ UInt64.size / 2) ∧ n = -(value : Int)
        else n = value) := by
  obtain ⟨sign, digits, tenths, power⟩ := numeral
  unfold Numeral.value at hvalue
  rw [hgather] at hvalue
  simp only at hvalue
  by_cases hplain : (tenths.isEmpty && power.isNone && left == 0) = true
  · rw [if_pos hplain] at hvalue
    simp only [Bool.and_eq_true, List.isEmpty_iff, Option.isNone_iff_eq_none, beq_iff_eq] at hplain
    refine ⟨⟨hplain.1.1, hplain.1.2, hplain.2⟩, ?_⟩
    cases sign with
    | false => simpa using hvalue.symm
    | true =>
      by_cases hsmall : 0 < value ∧ value ≤ UInt64.size / 2
      · exact ⟨hsmall, by simpa [hsmall] using hvalue.symm⟩
      · simp [hsmall] at hvalue
  · rw [if_neg hplain] at hvalue
    exfalso
    cases power with
    | none => exact floatOf_ne_integer _ _ _ _ _ hvalue
    | some found =>
      obtain ⟨small, places, before⟩ := found
      simp only at hvalue
      cases hexp : exponentOf places 0 0 with
      | ok e =>
        rw [hexp] at hvalue
        exact floatOf_ne_integer _ _ _ _ _ hvalue
      | error taken =>
        rw [hexp] at hvalue
        simp only at hvalue
        split at hvalue <;> cases hvalue

theorem Numeral.Tells.signed_of_value {whole fraction exponent : List Char} {after : Cursor}
    {n : Int} (htells : numeral.Tells negative whole fraction exponent) (hwhole : IsWhole whole)
    (hvalue : numeral.value after = .ok (.integer n)) :
    signChars negative ++ whole ++ fraction ++ exponent = Text.signed n ∧ FitsWord n := by
  obtain ⟨rfl, hdigits, hfraction, hexponent⟩ := htells
  obtain ⟨⟨value, count, left⟩, hgather⟩ : ∃ found, gather numeral.whole 0 0 = found := ⟨_, rfl⟩
  obtain ⟨⟨htenths, hpower, rfl⟩, hsign⟩ := Numeral.plain_of_value hgather hvalue
  rw [hdigits] at hgather
  obtain ⟨hsum, hfits⟩ := gather_of_none_left whole (Nat.zero_le maxWord) hgather
  have hwritten := hwhole.eq_decimal
  rw [← hsum] at hwritten
  rw [hfraction.mp htenths, hexponent.mp hpower, ← hwritten, List.append_nil, List.append_nil]
  cases hnegative : numeral.negative with
  | false =>
    have hn : n = value := by simpa [hnegative] using hsign
    have hpos : ¬ n < 0 := by omega
    have habs : n.natAbs = value := by omega
    unfold Text.signed FitsWord
    rw [if_neg hpos, habs]
    exact ⟨rfl, by omega, by omega⟩
  | true =>
    obtain ⟨⟨hzero, hhalf⟩, hn⟩ : (0 < value ∧ value ≤ UInt64.size / 2) ∧ n = -(value : Int) := by
      simpa [hnegative] using hsign
    have hneg : n < 0 := by omega
    have habs : n.natAbs = value := by omega
    unfold Text.signed FitsWord
    rw [if_pos hneg, habs]
    exact ⟨rfl, by omega, by omega⟩

end

/-- **A whole number is read as it was written.** -/
theorem readNumber_written {n : Int} (h : FitsWord n) {rest : Bytes} (hrest : EndsNumeral rest)
    (p : Position) :
    ∃ q, readNumber ⟨bytesOf (Text.signed n) ++ rest, p⟩ = .ok (.integer n, ⟨rest, q⟩) := by
  obtain ⟨hlow, hhigh⟩ := h
  have hscan := scanNumeral_written (isWhole_decimal n.natAbs) (.inl rfl) (.inl rfl) hrest
    .endInValue
  rw [List.append_nil, List.append_nil] at hscan
  unfold Text.signed
  by_cases hneg : n < 0
  · obtain ⟨numeral, q, hq, htells⟩ := hscan true (p.advance 0x2D)
    have hhalf : UInt64.size / 2 ≤ maxWord := by decide
    have hvalue := htells.value_written (by omega) (fun _ => ⟨by omega, by omega⟩) ⟨rest, q⟩
    rw [if_pos rfl, show -(n.natAbs : Int) = n by omega] at hvalue
    refine ⟨q, ?_⟩
    rw [if_pos hneg, Utf8.bytesOf_cons_ascii (by decide), List.cons_append]
    exact (readNumber_signed hq).trans (by rw [hvalue]; rfl)
  · obtain ⟨numeral, q, hq, htells⟩ := hscan false p
    have hvalue := htells.value_written (by omega) nofun ⟨rest, q⟩
    rw [if_neg (by decide), show (n.natAbs : Int) = n by omega] at hvalue
    have hfirst := head?_whole (isWhole_decimal n.natAbs) [] rest
    rw [List.append_nil] at hfirst
    refine ⟨q, ?_⟩
    rw [if_neg hneg, readNumber_unsigned hfirst hq, hvalue]
    rfl

/-- **What is read as a whole number was written as one.** -/
theorem integer_of_readNumber {chars : List Char} (h : IsNumeral chars) {rest : Bytes}
    (hrest : EndsNumeral rest) {p : Position} {n : Int} {after : Cursor}
    (hread : readNumber ⟨bytesOf chars ++ rest, p⟩ = .ok (.integer n, after)) :
    chars = Text.signed n ∧ FitsWord n := by
  obtain ⟨negative, whole, fraction, exponent, numeral, q, rfl, hwhole, htells, hspelled⟩ :=
    readNumber_spelled h hrest p
  rw [hspelled] at hread
  cases hvalue : numeral.value ⟨rest, q⟩ with
  | error problem =>
    rw [hvalue] at hread
    cases hread
  | ok number =>
    rw [hvalue] at hread
    obtain ⟨rfl, -⟩ := Prod.mk.inj (Except.ok.inj hread)
    exact htells.signed_of_value hwhole hvalue

end Json

end UserAccounts
