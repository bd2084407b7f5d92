/-
# Written numbers

A number written in decimal, or with zeros in front up to some width, is read back as
it is (`magnitude?_padded`). Digits read behind others count for less than these:
`ofDigitChars_lt_iff` compares the numbers that two runs of digits write behind two
numbers, and the runs decide only when these are equal. So numbers written with one
width, with whatever stands behind them, are in the order of the numbers first
(`padded_append_lt_iff`).

Key theorems: `exists_decimal_cons`, `magnitude?_padded`, `ofDigitChars_lt_iff`,
`padded_append_lt_iff`.
-/
import Mathlib.Algebra.Group.Nat.Defs
import UserAccounts.Text.Digits

namespace UserAccounts.Text

theorem isDigit_of_mem_decimal {n : Nat} {c : Char} (h : c ∈ decimal n) : c.isDigit = true :=
  Nat.isDigit_of_mem_toDigits (by decide) (by decide) h

theorem exists_decimal_cons {n : Nat} (h : 0 < n) :
    ∃ c chars, decimal n = c :: chars ∧ c ≠ '0' := by
  unfold decimal
  induction n using Nat.strongRecOn with
  | ind n ih =>
    by_cases hsmall : n < 10
    · have hdigit : ∀ m < 10, 0 < m → m.digitChar ≠ '0' := by decide
      exact ⟨n.digitChar, [], Nat.toDigits_of_lt_base hsmall, hdigit n hsmall h⟩
    · obtain ⟨c, chars, hwritten, hc⟩ := ih (n / 10) (by omega) (by omega)
      refine ⟨c, chars ++ [(n % 10).digitChar], ?_, hc⟩
      rw [Nat.toDigits_of_base_le (by decide) (by omega), hwritten]
      rfl

theorem decimal_ten_mul_add {n d : Nat} (hn : 0 < n) (hd : d < 10) :
    decimal (10 * n + d) = decimal n ++ [d.digitChar] := by
  have hdiv : (10 * n + d) / 10 = n := by omega
  have hmod : (10 * n + d) % 10 = d := by omega
  unfold decimal
  rw [Nat.toDigits_of_base_le (by decide) (by omega), hdiv, hmod]

/-! ### Reading what is written -/

theorem digitsValue?_of_digits {chars : List Char} (h : ∀ c ∈ chars, c.isDigit = true) (acc : Nat) :
    digitsValue? chars acc = some (Nat.ofDigitChars 10 chars acc) := by
  induction chars generalizing acc with
  | nil => rfl
  | cons c chars ih =>
    obtain ⟨hc, hchars⟩ := List.forall_mem_cons.mp h
    have hvalue : digitValue? c = some (c.toNat - 48) := if_pos hc
    rw [digitsValue?, hvalue, Option.bind_some, ih hchars, Nat.ofDigitChars_cons, Nat.mul_comm acc]
    rfl

section

variable {width n : Nat} {c : Char}

theorem isDigit_of_mem_padded (h : c ∈ padded width n) : c.isDigit = true := by
  rcases List.mem_append.mp h with hzero | hdigit
  · rw [List.eq_of_mem_replicate hzero]
    decide
  · exact isDigit_of_mem_decimal hdigit

theorem padded_ne_nil : padded width n ≠ [] :=
  List.append_ne_nil_of_right_ne_nil _ Nat.toDigits_ne_nil

theorem length_padded (hwidth : 0 < width) (h : n < 10 ^ width) :
    (padded width n).length = width := by
  have hle : (decimal n).length ≤ width := (Nat.length_toDigits_le_iff (by decide) hwidth).mpr h
  unfold padded
  rw [List.length_append, List.length_replicate, Nat.sub_add_cancel hle]

theorem ofDigitChars_padded (width n : Nat) : Nat.ofDigitChars 10 (padded width n) 0 = n := by
  unfold padded decimal
  rw [Nat.ofDigitChars_append, Nat.ofDigitChars_replicate_zero]
  exact Nat.ofDigitChars_ten_toDigits

/-- **A number is read as it is written.** -/
theorem magnitude?_padded (width n : Nat) : magnitude? (padded width n) = some n := by
  have hread : magnitude? (padded width n) = digitsValue? (padded width n) 0 := by
    cases hwritten : padded width n with
    | nil => exact absurd hwritten padded_ne_nil
    | cons c chars => rfl
  rw [hread, digitsValue?_of_digits (fun _ => isDigit_of_mem_padded), ofDigitChars_padded]

end

/-! ### The order of what is written -/

theorem ofDigitChars_lt_iff {xs ys : List Char} (hx : ∀ c ∈ xs, c.isDigit = true)
    (hy : ∀ c ∈ ys, c.isDigit = true) (hlength : xs.length = ys.length) (m n : Nat) :
    Nat.ofDigitChars 10 xs m < Nat.ofDigitChars 10 ys n ↔ m < n ∨ m = n ∧ xs < ys := by
  induction xs generalizing ys m n with
  | nil =>
    obtain rfl := List.length_eq_zero_iff.mp hlength.symm
    have hnot := List.not_lt_nil ([] : List Char)
    refine ⟨.inl, fun h => ?_⟩
    rcases h with hless | ⟨-, hless⟩
    · exact hless
    · exact absurd hless hnot
  | cons x xs ih =>
    obtain _ | ⟨y, ys⟩ := ys
    · cases hlength
    obtain ⟨hxd, hxs⟩ := List.forall_mem_cons.mp hx
    obtain ⟨hyd, hys⟩ := List.forall_mem_cons.mp hy
    have hxrange : 48 ≤ x.toNat ∧ x.toNat ≤ 57 := Char.isDigit_iff_toNat.mp hxd
    have hyrange : 48 ≤ y.toNat ∧ y.toNat ≤ 57 := Char.isDigit_iff_toNat.mp hyd
    have hless : x < y ↔ x.toNat < y.toNat := Iff.rfl
    have hsame : x = y ↔ x.toNat = y.toNat := Char.toNat_inj.symm
    have hzero : '0'.toNat = 48 := rfl
    rw [Nat.ofDigitChars_cons, Nat.ofDigitChars_cons, ih hxs hys (Nat.succ.inj hlength),
      List.cons_lt_cons_iff, hless, hsame, hzero]
    by_cases hrest : xs < ys
    · simp only [hrest, and_true]
      omega
    · simp only [hrest, and_false, or_false]
      omega

/-- What is written first decides, if it is as long as the other. -/
theorem append_lt_append_iff {xs ys : List Char} (hlength : xs.length = ys.length)
    (more others : List Char) :
    xs ++ more < ys ++ others ↔ xs < ys ∨ xs = ys ∧ more < others := by
  induction xs generalizing ys with
  | nil =>
    obtain rfl := List.length_eq_zero_iff.mp hlength.symm
    simp
  | cons x xs ih =>
    obtain _ | ⟨y, ys⟩ := ys
    · cases hlength
    rw [List.cons_append, List.cons_append, List.cons_lt_cons_iff, List.cons_lt_cons_iff,
      ih (Nat.succ.inj hlength), List.cons.injEq, and_or_left, or_assoc, and_assoc]

section

variable {width m n : Nat}

/-- Numbers written with one width are in the order of the numbers. -/
theorem padded_lt_iff (hwidth : 0 < width) (hm : m < 10 ^ width) (hn : n < 10 ^ width) :
    padded width m < padded width n ↔ m < n := by
  have hlength : (padded width m).length = (padded width n).length := by
    rw [length_padded hwidth hm, length_padded hwidth hn]
  have hvalues := ofDigitChars_lt_iff (fun _ => isDigit_of_mem_padded)
    (fun _ => isDigit_of_mem_padded) hlength 0 0
  rw [ofDigitChars_padded, ofDigitChars_padded] at hvalues
  rw [hvalues, or_iff_right (Nat.lt_irrefl 0), and_iff_right rfl]

theorem padded_inj : padded width m = padded width n ↔ m = n := by
  refine ⟨fun h => ?_, fun h => by rw [h]⟩
  rw [← ofDigitChars_padded width m, h, ofDigitChars_padded]

/-- **The number decides, then what stands behind it.** -/
theorem padded_append_lt_iff (hwidth : 0 < width) (hm : m < 10 ^ width) (hn : n < 10 ^ width)
    (more others : List Char) :
    padded width m ++ more < padded width n ++ others ↔ m < n ∨ m = n ∧ more < others := by
  have hlength : (padded width m).length = (padded width n).length := by
    rw [length_padded hwidth hm, length_padded hwidth hn]
  rw [append_lt_append_iff hlength, padded_lt_iff hwidth hm hn, padded_inj]

end

example : padded 2 7 ++ ['Z'] < padded 2 10 ++ ['A'] := by decide

end UserAccounts.Text
