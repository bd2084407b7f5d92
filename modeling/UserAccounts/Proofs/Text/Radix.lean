/-
# Numbers written in a base

A number is written with the digits of a base, most significant first and without zeros
in front, and the digits together make the number (`exists_digits`). So hexadecimal digits
are read back (`hexNumber_hexLower`).

Key theorems: `exists_digits`, `hexValue?_digitChar`, `hexNumber_hexLower`.
-/
import Mathlib.Data.List.Basic
import UserAccounts.Text.RangeTable

namespace UserAccounts.Text

/-- The digits of a number: all below the base, none of them a zero in front, and together the
number. -/
theorem exists_digits {base : Nat} (hbase : 1 < base) (n : Nat) :
    ∃ digits, Nat.toDigits base n = digits.map Nat.digitChar ∧ digits ≠ [] ∧
      (∀ d ∈ digits, d < base) ∧ (digits.head? = some 0 → digits = [0]) ∧
      digits.foldl (fun n d => n * base + d) 0 = n := by
  induction n using Nat.strongRecOn with
  | ind n ih =>
    by_cases hsmall : n < base
    · refine ⟨[n], Nat.toDigits_of_lt_base hsmall, List.cons_ne_nil _ _, by simpa using hsmall, ?_,
        by simp⟩
      intro hzero
      rw [Option.some.inj hzero]
    · have hle : base ≤ n := Nat.le_of_not_lt hsmall
      have hpos : 0 < n / base := Nat.div_pos hle (Nat.zero_lt_of_lt hbase)
      obtain ⟨digits, hwritten, hne, hlow, hhead, hvalue⟩ :=
        ih (n / base) (Nat.div_lt_self (by omega) hbase)
      refine ⟨digits ++ [n % base], ?_, by simp, ?_, ?_, ?_⟩
      · rw [Nat.toDigits_of_base_le hbase hle, hwritten, List.map_append]
        rfl
      · intro d hd
        rcases List.mem_append.mp hd with hd | hd
        · exact hlow d hd
        · rw [List.mem_singleton.mp hd]
          exact Nat.mod_lt n (Nat.zero_lt_of_lt hbase)
      · intro hzero
        obtain ⟨d, more, rfl⟩ := List.exists_cons_of_ne_nil hne
        have hlone : d :: more = [0] := hhead hzero
        rw [hlone] at hvalue
        simp at hvalue
        omega
      · rw [List.foldl_append, hvalue, List.foldl_cons, List.foldl_nil, Nat.mul_comm]
        exact Nat.div_add_mod n base

theorem exists_digitChar_of_mem {base n : Nat} {c : Char} (hbase : 1 < base)
    (h : c ∈ Nat.toDigits base n) : ∃ d < base, c = d.digitChar := by
  obtain ⟨digits, hwritten, -, hlow, -⟩ := exists_digits hbase n
  rw [hwritten] at h
  obtain ⟨d, hd, rfl⟩ := List.mem_map.mp h
  exact ⟨d, hlow d hd, rfl⟩

theorem hexValue?_digitChar {d : Nat} (h : d < 16) : hexValue? d.digitChar = some d := by
  revert d
  decide

/-! ### Hexadecimal digits -/

theorem hexNumber_hexLower (n : Nat) : hexNumber (hexLower n) = n := by
  obtain ⟨digits, hwritten, -, hlow, -, hvalue⟩ := exists_digits (show 1 < 16 by decide) n
  unfold hexNumber hexLower
  rw [hwritten, List.foldl_map]
  have hsame : ∀ (n : Nat), ∀ d ∈ digits, n * 16 + (hexValue? d.digitChar).getD 0 = n * 16 + d := by
    intro n d hd
    rw [hexValue?_digitChar (hlow d hd), Option.getD_some]
  rw [List.foldl_ext _ _ 0 hsame, hvalue]

theorem ne_brace_of_mem_hexLower {n : Nat} {c : Char} (h : c ∈ hexLower n) : c ≠ '\x7d' := by
  obtain ⟨d, hd, rfl⟩ := exists_digitChar_of_mem (by decide) h
  have hall : ∀ d < 16, Nat.digitChar d ≠ '\x7d' := by decide
  exact hall d hd

end UserAccounts.Text
