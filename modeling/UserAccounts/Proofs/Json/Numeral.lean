/-
# Numbers as they are spelled

A number is spelled by decimal digits without zeros in front, behind a minus sign perhaps,
and perhaps with a fraction and an exponent behind them (`IsNumeral`). Where nothing stands
behind it that could go on with it (`EndsNumeral`), scanning takes all of it, part by
part, and no more (`scanNumeral_written`), and so does passing over it (`skipNumber_written`).

The digits before the point are those that a number is written with
(`IsWhole.eq_decimal`).

Key definitions: `IsNumeral`, `EndsDigits`, `EndsNumeral`, `digitValue`.
Key theorems: `digitsFrom_written`, `scanNumeral_written`, `IsWhole.eq_decimal`,
`skipNumber_written`.
-/
import Mathlib.Data.List.Induction
import UserAccounts.Json.Number
import UserAccounts.Proofs.Text.Digits
import UserAccounts.Proofs.Text.Utf8

namespace UserAccounts.Json

open Utf8 (bytesOf)

/-! ### The grammar of numbers -/

def AreDigits (chars : List Char) : Prop :=
  chars ≠ [] ∧ ∀ c ∈ chars, c.isDigit = true

/-- The digits before the point, without zeros in front. -/
def IsWhole (chars : List Char) : Prop :=
  AreDigits chars ∧ (chars.head? = some '0' → chars = ['0'])

/-- The point and the digits behind it, which may be missing together. -/
def IsFraction (chars : List Char) : Prop :=
  chars = [] ∨ ∃ digits, chars = '.' :: digits ∧ AreDigits digits

/-- The exponent, which may be missing. -/
def IsExponent (chars : List Char) : Prop :=
  chars = [] ∨ ∃ e sign digits, chars = e :: sign ++ digits ∧ e ∈ ['e', 'E'] ∧
    sign ∈ [[], ['+'], ['-']] ∧ AreDigits digits

def IsNumeral (chars : List Char) : Prop :=
  ∃ sign whole fraction exponent, chars = sign ++ whole ++ fraction ++ exponent ∧
    sign ∈ [[], ['-']] ∧ IsWhole whole ∧ IsFraction fraction ∧ IsExponent exponent

/-! ### Digits -/

def digitValue (c : Char) : Nat :=
  c.toNat - 48

theorem isDigit_range {c : Char} (h : c.isDigit = true) : 48 ≤ c.toNat ∧ c.toNat ≤ 57 :=
  Char.isDigit_iff_toNat.mp h

theorem ascii_of_isDigit {c : Char} (h : c.isDigit = true) : c.toNat < 128 :=
  Nat.lt_of_le_of_lt (isDigit_range h).2 (by decide)

theorem toNat_digitByte {c : Char} (h : c.isDigit = true) :
    (UInt8.ofNat c.toNat).toNat = c.toNat := by
  obtain ⟨-, hhigh⟩ := isDigit_range h
  exact UInt8.toNat_ofNat_of_lt' (Nat.lt_of_le_of_lt hhigh (by decide))

theorem isDigitByte_ofNat {c : Char} (h : c.isDigit = true) :
    isDigitByte (.ofNat c.toNat) = true := by
  obtain ⟨hlow, hhigh⟩ := isDigit_range h
  simp only [isDigitByte, UInt8.le_iff_toNat_le, toNat_digitByte h, Bool.and_eq_true,
    decide_eq_true_eq]
  exact ⟨hlow, hhigh⟩

theorem digitValue_ofByte {c : Char} (h : c.isDigit = true) :
    (UInt8.ofNat c.toNat - 0x30).toNat = digitValue c := by
  obtain ⟨hlow, hhigh⟩ := isDigit_range h
  have hle : (0x30 : UInt8) ≤ .ofNat c.toNat := by
    rw [UInt8.le_iff_toNat_le, toNat_digitByte h]
    exact hlow
  rw [UInt8.toNat_sub_of_le _ _ hle, toNat_digitByte h]
  rfl

/-- No digit stands at the front. -/
def EndsDigits (rest : Bytes) : Prop :=
  ∀ b, rest.head? = some b → isDigitByte b = false

/-- Nothing stands at the front that goes on with a number. -/
def EndsNumeral (rest : Bytes) : Prop :=
  ∀ b, rest.head? = some b → isDigitByte b = false ∧ b ≠ 0x2E ∧ b ≠ 0x65 ∧ b ≠ 0x45

theorem EndsNumeral.endsDigits {rest : Bytes} (h : EndsNumeral rest) : EndsDigits rest :=
  fun b hb => (h b hb).1

theorem endsDigits_cons {b : UInt8} (h : isDigitByte b = false) (rest : Bytes) :
    EndsDigits (b :: rest) := by
  intro d hd
  rwa [← Option.some.inj hd]

theorem digitsFrom_written {chars : List Char} (h : ∀ c ∈ chars, c.isDigit = true) {rest : Bytes}
    (hrest : EndsDigits rest) (p : Position) (acc : List Nat) :
    ∃ q, digitsFrom (bytesOf chars ++ rest) p acc =
      (acc.reverse ++ chars.map digitValue, ⟨rest, q⟩) := by
  induction chars generalizing p acc with
  | nil =>
    refine ⟨p, ?_⟩
    rw [Utf8.bytesOf_nil, List.nil_append, List.map_nil, List.append_nil]
    cases rest with
    | nil => rfl
    | cons b more =>
      have hnot : isDigitByte b = false := hrest b rfl
      rw [digitsFrom, if_neg (by rw [hnot]; decide)]
  | cons c chars ih =>
    obtain ⟨hc, hchars⟩ := List.forall_mem_cons.mp h
    obtain ⟨q, hq⟩ := ih hchars (p.advance (.ofNat c.toNat)) (digitValue c :: acc)
    refine ⟨q, ?_⟩
    rw [Utf8.bytesOf_cons_ascii (ascii_of_isDigit hc), List.cons_append, digitsFrom,
      if_pos (isDigitByte_ofNat hc), digitValue_ofByte hc, hq, List.reverse_cons, List.append_assoc]
    rfl

theorem digits_written {chars : List Char} (h : AreDigits chars) {rest : Bytes}
    (hrest : EndsDigits rest) (p : Position) :
    ∃ b more q, bytesOf chars ++ rest = b :: more ∧ isDigitByte b = true ∧
      (⟨bytesOf chars ++ rest, p⟩ : Cursor).digits = (chars.map digitValue, ⟨rest, q⟩) := by
  obtain ⟨hne, hdigits⟩ := h
  obtain ⟨q, hq⟩ := digitsFrom_written hdigits hrest p []
  obtain ⟨c, chars, rfl⟩ := List.exists_cons_of_ne_nil hne
  have hc : c.isDigit = true := hdigits c List.mem_cons_self
  refine ⟨.ofNat c.toNat, bytesOf chars ++ rest, q, ?_, isDigitByte_ofNat hc, hq⟩
  rw [Utf8.bytesOf_cons_ascii (ascii_of_isDigit hc), List.cons_append]

/-! ### The parts of a number -/

variable {whole fraction exponent : List Char} {rest : Bytes}

theorem scanWhole_written (h : IsWhole whole) (hrest : EndsDigits rest) (atEnd : Fault)
    (p : Position) :
    ∃ q, scanWhole atEnd ⟨bytesOf whole ++ rest, p⟩ = .ok (whole.map digitValue, ⟨rest, q⟩) := by
  obtain ⟨hdigits, hzero⟩ := h
  by_cases hhead : whole.head? = some '0'
  · rw [hzero hhead]
    refine ⟨p.advance 0x30, ?_⟩
    cases rest with
    | nil => rfl
    | cons b more =>
      have hnot : isDigitByte b = false := hrest b rfl
      show (if isDigitByte b = true then _ else _) = _
      rw [if_neg (by rw [hnot]; decide)]
      rfl
  · obtain ⟨b, more, q, hwritten, hb, hq⟩ := digits_written hdigits hrest p
    obtain ⟨c, chars, rfl⟩ := List.exists_cons_of_ne_nil hdigits.1
    have hc : c.isDigit = true := hdigits.2 c List.mem_cons_self
    have hne : ¬ (UInt8.ofNat c.toNat == 0x30) = true := by
      rw [beq_iff_eq, ← UInt8.toNat_inj, toNat_digitByte hc]
      exact fun he => hhead (congrArg some (Char.toNat_inj.mp he))
    refine ⟨q, ?_⟩
    unfold scanWhole
    rw [Utf8.bytesOf_cons_ascii (ascii_of_isDigit hc), List.cons_append] at hq ⊢
    simp only
    rw [if_neg hne, if_pos (isDigitByte_ofNat hc)]
    exact congrArg Except.ok hq

theorem scanFraction_written (h : IsFraction fraction) (hrest : EndsDigits rest)
    (hpoint : rest.head? ≠ some 0x2E) (atEnd : Fault) (p : Position) :
    ∃ q, scanFraction atEnd ⟨bytesOf fraction ++ rest, p⟩ =
      .ok ((fraction.drop 1).map digitValue, ⟨rest, q⟩) := by
  rcases h with rfl | ⟨digits, rfl, hdigits⟩
  · refine ⟨p, ?_⟩
    unfold scanFraction
    split
    · rename_i hpoint'
      exact absurd (congrArg List.head? hpoint') hpoint
    · rfl
  · obtain ⟨b, more, q, hwritten, hb, hq⟩ := digits_written hdigits hrest (p.advance 0x2E)
    obtain ⟨c, chars, rfl⟩ := List.exists_cons_of_ne_nil hdigits.1
    refine ⟨q, ?_⟩
    have hnext : (⟨0x2E :: (bytesOf (c :: chars) ++ rest), p⟩ : Cursor).next =
        ⟨bytesOf (c :: chars) ++ rest, p.advance 0x2E⟩ := rfl
    have hwritten : bytesOf ('.' :: c :: chars) ++ rest = 0x2E :: (bytesOf (c :: chars) ++ rest) :=
      rfl
    rw [hwritten]
    unfold scanFraction
    simp only [hnext, hq, List.map_cons]
    rfl

/-- Behind the letter of an exponent stand its sign, if it has one, and its digits. -/
theorem scanExponent_letter {e b : UInt8} {sign more : Bytes} {digits : List Nat}
    (he : (e == 0x65 || e == 0x45) = true) (hsign : sign = [] ∨ sign = [0x2B] ∨ sign = [0x2D])
    (hb : isDigitByte b = true)
    (hdigits : ∀ p, ∃ q, (⟨b :: more, p⟩ : Cursor).digits = (digits, ⟨rest, q⟩)) (atEnd : Fault)
    (p : Position) :
    ∃ found q, scanExponent atEnd ⟨e :: (sign ++ b :: more), p⟩ = .ok (some found, ⟨rest, q⟩) := by
  rcases hsign with rfl | rfl | rfl
  · obtain ⟨q, hq⟩ := hdigits (p.advance e)
    have hnext : (⟨e :: b :: more, p⟩ : Cursor).next = ⟨b :: more, p.advance e⟩ := rfl
    have hplus : b ≠ 0x2B := by
      rintro rfl
      exact absurd hb (by decide)
    have hminus : b ≠ 0x2D := by
      rintro rfl
      exact absurd hb (by decide)
    refine ⟨(false, digits, ⟨b :: more, p.advance e⟩), q, ?_⟩
    unfold scanExponent
    simp [he, hplus, hminus, hnext, hb, hq]
  · obtain ⟨q, hq⟩ := hdigits ((p.advance e).advance 0x2B)
    have hnext : (⟨e :: 0x2B :: b :: more, p⟩ : Cursor).next.next =
        ⟨b :: more, (p.advance e).advance 0x2B⟩ := rfl
    refine ⟨(false, digits, ⟨b :: more, (p.advance e).advance 0x2B⟩), q, ?_⟩
    unfold scanExponent
    simp only [he, if_true, List.cons_append, List.nil_append, hnext, hb, hq]
  · obtain ⟨q, hq⟩ := hdigits ((p.advance e).advance 0x2D)
    have hnext : (⟨e :: 0x2D :: b :: more, p⟩ : Cursor).next.next =
        ⟨b :: more, (p.advance e).advance 0x2D⟩ := rfl
    refine ⟨(true, digits, ⟨b :: more, (p.advance e).advance 0x2D⟩), q, ?_⟩
    unfold scanExponent
    simp only [he, if_true, List.cons_append, List.nil_append, hnext, hb, hq]

theorem scanExponent_written (h : IsExponent exponent) (hrest : EndsNumeral rest) (atEnd : Fault)
    (p : Position) :
    ∃ found q, scanExponent atEnd ⟨bytesOf exponent ++ rest, p⟩ = .ok (found, ⟨rest, q⟩) ∧
      (found = none ↔ exponent = []) := by
  rcases h with rfl | ⟨e, sign, digits, rfl, he, hsign, hdigits⟩
  · refine ⟨none, p, ?_, iff_of_true rfl rfl⟩
    cases rest with
    | nil => rfl
    | cons b more =>
      obtain ⟨-, -, hsmall, hlarge⟩ := hrest b rfl
      show (if (b == 0x65 || b == 0x45) = true then _ else _) = _
      rw [if_neg (by simp [hsmall, hlarge])]
      rfl
  · obtain ⟨b, more, -, hwritten, hb, -⟩ := digits_written hdigits hrest.endsDigits p
    have hall : ∀ p, ∃ q, (⟨b :: more, p⟩ : Cursor).digits =
        (digits.map digitValue, ⟨rest, q⟩) := by
      intro p
      obtain ⟨-, -, q, -, -, hq⟩ := digits_written hdigits hrest.endsDigits p
      rw [hwritten] at hq
      exact ⟨q, hq⟩
    have hletter : e.toNat < 128 ∧
        (UInt8.ofNat e.toNat == 0x65 || UInt8.ofNat e.toNat == 0x45) = true := by
      simp only [List.mem_cons, List.not_mem_nil, or_false] at he
      rcases he with rfl | rfl <;> decide
    have hbytes : bytesOf sign = [] ∨ bytesOf sign = [0x2B] ∨ bytesOf sign = [0x2D] := by
      simp only [List.mem_cons, List.not_mem_nil, or_false] at hsign
      rcases hsign with rfl | rfl | rfl
      · exact .inl rfl
      · exact .inr (.inl rfl)
      · exact .inr (.inr rfl)
    obtain ⟨found, q, hq⟩ := scanExponent_letter hletter.2 hbytes hb hall atEnd p
    refine ⟨some found, q, ?_, iff_of_false nofun nofun⟩
    rwa [List.cons_append, Utf8.bytesOf_cons_ascii hletter.1, Utf8.bytesOf_append, List.cons_append,
      List.append_assoc, hwritten]

/-! ### Whole numbers -/

/-- The parts of a number are those that are spelled. -/
structure Numeral.Tells (numeral : Numeral) (negative : Bool)
    (whole fraction exponent : List Char) : Prop where
  negative : numeral.negative = negative
  whole : numeral.whole = whole.map digitValue
  fraction : numeral.fraction = [] ↔ fraction = []
  exponent : numeral.exponent = none ↔ exponent = []

/-- **A number is scanned part by part**, and no more is taken. -/
theorem scanNumeral_written (hwhole : IsWhole whole) (hfraction : IsFraction fraction)
    (hexponent : IsExponent exponent) (hrest : EndsNumeral rest) (atEnd : Fault) (negative : Bool)
    (p : Position) :
    ∃ numeral q, scanNumeral atEnd negative
        ⟨bytesOf (whole ++ fraction ++ exponent) ++ rest, p⟩ = .ok (numeral, ⟨rest, q⟩) ∧
      numeral.Tells negative whole fraction exponent := by
  have hbehind : EndsDigits (bytesOf exponent ++ rest) ∧
      (bytesOf exponent ++ rest).head? ≠ some 0x2E := by
    rcases hexponent with rfl | ⟨e, sign, digits, rfl, he, -, -⟩
    · refine ⟨hrest.endsDigits, fun hpoint => ?_⟩
      exact (hrest _ hpoint).2.1 rfl
    · simp only [List.mem_cons, List.not_mem_nil, or_false] at he
      rcases he with rfl | rfl
      · exact ⟨endsDigits_cons (by decide) _, fun h => absurd (Option.some.inj h) (by decide)⟩
      · exact ⟨endsDigits_cons (by decide) _, fun h => absurd (Option.some.inj h) (by decide)⟩
  have hpoint : EndsDigits (bytesOf fraction ++ (bytesOf exponent ++ rest)) := by
    rcases hfraction with rfl | ⟨digits, rfl, -⟩
    · exact hbehind.1
    · exact endsDigits_cons (by decide) _
  obtain ⟨q₁, hscan₁⟩ := scanWhole_written hwhole hpoint atEnd p
  obtain ⟨q₂, hscan₂⟩ := scanFraction_written hfraction hbehind.1 hbehind.2 atEnd q₁
  obtain ⟨found, q₃, hscan₃, hfound⟩ := scanExponent_written hexponent hrest atEnd q₂
  refine ⟨⟨negative, whole.map digitValue, (fraction.drop 1).map digitValue, found⟩, q₃, ?_,
    rfl, rfl, ?_, hfound⟩
  · rw [Utf8.bytesOf_append, Utf8.bytesOf_append, List.append_assoc, List.append_assoc]
    simp only [scanNumeral, hscan₁, hscan₂, hscan₃, bind, Except.bind]
  · rcases hfraction with rfl | ⟨digits, rfl, hne, -⟩
    · exact iff_of_true rfl rfl
    · simpa using hne

theorem digitChar_digitValue {c : Char} (h : c.isDigit = true) : (digitValue c).digitChar = c := by
  obtain ⟨hlow, hhigh⟩ := isDigit_range h
  have hall : ∀ n < 58, 48 ≤ n → (n - 48).digitChar = Char.ofNat n := by decide
  have hc := hall c.toNat (by omega) hlow
  rwa [Char.ofNat_toNat] at hc

theorem isWhole_decimal (n : Nat) : IsWhole (Text.decimal n) := by
  refine ⟨⟨Nat.toDigits_ne_nil, fun _ => Text.isDigit_of_mem_decimal⟩, fun hhead => ?_⟩
  rcases Nat.eq_zero_or_pos n with rfl | hpos
  · rfl
  · obtain ⟨c, chars, hwritten, hc⟩ := Text.exists_decimal_cons hpos
    rw [hwritten] at hhead
    exact absurd (Option.some.inj hhead) hc

/-- Digits without zeros in front are those that their number is written with. -/
theorem IsWhole.eq_decimal (h : IsWhole whole) :
    Text.decimal (Nat.ofDigitChars 10 whole 0) = whole := by
  induction whole using List.reverseRecOn with
  | nil => exact absurd rfl h.1.1
  | append_singleton front d ih =>
    obtain ⟨⟨-, hdigits⟩, hzero⟩ := h
    have hd : d.isDigit = true := hdigits d (by simp)
    have hlow : digitValue d < 10 := by
      have := isDigit_range hd
      unfold digitValue
      omega
    have hvalue : Nat.ofDigitChars 10 (front ++ [d]) 0 =
        10 * Nat.ofDigitChars 10 front 0 + digitValue d := by
      rw [Nat.ofDigitChars_append, Nat.ofDigitChars_cons, Nat.ofDigitChars_nil]
      rfl
    rw [hvalue]
    by_cases hfront : front = []
    · subst hfront
      rw [Nat.ofDigitChars_nil, Nat.mul_zero, Nat.zero_add, Text.decimal,
        Nat.toDigits_of_lt_base hlow, digitChar_digitValue hd]
      rfl
    · have hhead : front.head? ≠ some '0' := by
        intro hhead
        have hlone := congrArg List.length (hzero (by rw [List.head?_append, hhead]; rfl))
        rw [List.length_append, List.length_singleton, List.length_singleton] at hlone
        exact hfront (List.length_eq_zero_iff.mp (by omega))
      have hwhole : IsWhole front :=
        ⟨⟨hfront, fun c hc => hdigits c (List.mem_append_left _ hc)⟩, fun he => absurd he hhead⟩
      have hwritten := ih hwhole
      have hpos : 0 < Nat.ofDigitChars 10 front 0 := by
        refine Nat.pos_of_ne_zero fun hnone => hhead ?_
        rw [hnone] at hwritten
        rw [← hwritten]
        rfl
      rw [Text.decimal_ten_mul_add hpos hlow, hwritten, digitChar_digitValue hd]

theorem isNumeral_signed (n : Int) : IsNumeral (Text.signed n) := by
  have hwhole := isWhole_decimal n.natAbs
  unfold Text.signed
  split
  · exact ⟨['-'], _, [], [], by simp, by simp, hwhole, .inl rfl, .inl rfl⟩
  · exact ⟨[], _, [], [], by simp, by simp, hwhole, .inl rfl, .inl rfl⟩

/-! ### Signs -/

section

variable {c after : Cursor} {numeral : Numeral} {p : Position}

theorem readNumber_unsigned (hfirst : c.rest.head? ≠ some 0x2D)
    (hscan : scanNumeral .endInValue false c = .ok (numeral, after)) :
    readNumber c = (numeral.value after).map (·, after) := by
  unfold readNumber
  split
  rename_i negative start hstart
  split at hstart
  · rename_i hrest
    rw [hrest] at hfirst
    exact absurd rfl hfirst
  · cases hstart
    simp only [hscan, bind, Except.bind]
    cases numeral.value after <;> rfl

theorem readNumber_signed
    (hscan : scanNumeral .endInValue true ⟨rest, p.advance 0x2D⟩ = .ok (numeral, after)) :
    readNumber ⟨0x2D :: rest, p⟩ = (numeral.value after).map (·, after) := by
  have hnext : (⟨0x2D :: rest, p⟩ : Cursor).next = ⟨rest, p.advance 0x2D⟩ := rfl
  simp only [readNumber, hnext, hscan, bind, Except.bind]
  cases numeral.value after <;> rfl

theorem skipNumber_unsigned (hfirst : c.rest.head? ≠ some 0x2D)
    (hscan : scanNumeral .badNumber false c = .ok (numeral, after)) : skipNumber c = .ok after := by
  unfold skipNumber
  split
  rename_i negative start hstart
  split at hstart
  · rename_i hrest
    rw [hrest] at hfirst
    exact absurd rfl hfirst
  · cases hstart
    simp only [hscan, bind, Except.bind]

theorem skipNumber_signed
    (hscan : scanNumeral .badNumber true ⟨rest, p.advance 0x2D⟩ = .ok (numeral, after)) :
    skipNumber ⟨0x2D :: rest, p⟩ = .ok after := by
  have hnext : (⟨0x2D :: rest, p⟩ : Cursor).next = ⟨rest, p.advance 0x2D⟩ := rfl
  simp only [skipNumber, hnext, hscan, bind, Except.bind]

theorem head?_whole (h : IsWhole whole) (more : List Char) (rest : Bytes) :
    (bytesOf (whole ++ more) ++ rest).head? ≠ some 0x2D := by
  obtain ⟨⟨hne, hdigits⟩, -⟩ := h
  obtain ⟨c, chars, rfl⟩ := List.exists_cons_of_ne_nil hne
  have hc : c.isDigit = true := hdigits c List.mem_cons_self
  rw [List.cons_append, Utf8.bytesOf_cons_ascii (ascii_of_isDigit hc)]
  intro h
  have hminus := isDigitByte_ofNat hc
  rw [Option.some.inj h] at hminus
  exact absurd hminus (by decide)

end

def signChars (negative : Bool) : List Char :=
  if negative then ['-'] else []

/-- **A number is read from its parts**, with its sign. -/
theorem readNumber_spelled {chars : List Char} (h : IsNumeral chars) (hrest : EndsNumeral rest)
    (p : Position) :
    ∃ (negative : Bool) (whole fraction exponent : List Char) (numeral : Numeral) (q : Position),
      chars = signChars negative ++ whole ++ fraction ++ exponent ∧ IsWhole whole ∧
      numeral.Tells negative whole fraction exponent ∧
      readNumber ⟨bytesOf chars ++ rest, p⟩ = (numeral.value ⟨rest, q⟩).map (·, ⟨rest, q⟩) := by
  obtain ⟨sign, whole, fraction, exponent, rfl, hsign, hwhole, hfraction, hexponent⟩ := h
  have hscan := scanNumeral_written hwhole hfraction hexponent hrest .endInValue
  simp only [List.mem_cons, List.not_mem_nil, or_false] at hsign
  rcases hsign with rfl | rfl
  · obtain ⟨numeral, q, hq, htells⟩ := hscan false p
    refine ⟨false, whole, fraction, exponent, numeral, q, rfl, hwhole, htells, ?_⟩
    apply readNumber_unsigned _ hq
    rw [List.append_assoc]
    exact head?_whole hwhole _ rest
  · obtain ⟨numeral, q, hq, htells⟩ := hscan true (p.advance 0x2D)
    exact ⟨true, whole, fraction, exponent, numeral, q, rfl, hwhole, htells, readNumber_signed hq⟩

/-- **A number is passed over as a whole.** -/
theorem skipNumber_written {chars : List Char} (h : IsNumeral chars) (hrest : EndsNumeral rest)
    (p : Position) : ∃ q, skipNumber ⟨bytesOf chars ++ rest, p⟩ = .ok ⟨rest, q⟩ := by
  obtain ⟨sign, whole, fraction, exponent, rfl, hsign, hwhole, hfraction, hexponent⟩ := h
  have hscan := scanNumeral_written hwhole hfraction hexponent hrest .badNumber
  simp only [List.mem_cons, List.not_mem_nil, or_false] at hsign
  rcases hsign with rfl | rfl
  · obtain ⟨numeral, q, hq, -⟩ := hscan false p
    refine ⟨q, ?_⟩
    apply skipNumber_unsigned _ hq
    rw [List.append_assoc]
    exact head?_whole hwhole _ rest
  · obtain ⟨numeral, q, hq, -⟩ := hscan true (p.advance 0x2D)
    exact ⟨q, skipNumber_signed hq⟩

end UserAccounts.Json
