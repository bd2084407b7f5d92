/-
# Base 64 is read as it is written

In an alphabet that can be read digit by digit (`Alphabet.Legible`) a byte sequence
is read from its digits (`decode_encode`): the first digit of a group holds the
high six bits of a byte, each further digit what is left of one byte and the high
bits of the next. All that is written are digits of the alphabet.

Key definitions: `Alphabet.Legible`.
Key theorems: `decode_encode`, `exists_digit_of_mem_encode`, `length_encode`,
`webSafe_legible`, `plain_legible`.
-/
import UserAccounts.Text.Base64

namespace UserAccounts.Base64

/-- Each digit stands for one number. -/
def Alphabet.Legible (a : Alphabet) : Prop :=
  ∀ n < 64, a.value? (a.digit n) = some n

theorem webSafe_legible : webSafe.Legible := by
  unfold Alphabet.Legible
  decide

theorem plain_legible : plain.Legible := by
  unfold Alphabet.Legible
  decide

/-- The digits of the alphabet of tokens are letters, decimal digits and two marks. -/
theorem webSafe_digit {n : Nat} (h : n < 64) :
    (webSafe.digit n).isAlphanum = true ∨ webSafe.digit n = '-' ∨ webSafe.digit n = '_' := by
  revert n
  decide

/-- The digits of the alphabet of stored hashes are letters, decimal digits and two marks. -/
theorem plain_digit {n : Nat} (h : n < 64) :
    (plain.digit n).isAlphanum = true ∨ plain.digit n = '+' ∨ plain.digit n = '/' := by
  revert n
  decide

variable {a : Alphabet}

theorem ofNat_toNat_eq {b : UInt8} {n : Nat} (h : n = b.toNat) : UInt8.ofNat n = b := by
  rw [h]
  exact UInt8.ofNat_toNat

/-- **A byte sequence is read from its digits.** -/
theorem decode_encode (h : a.Legible) (bytes : Bytes) : decode a (encode a bytes) = some bytes := by
  have hlt := fun b : UInt8 => b.toNat_lt
  induction bytes using encode.induct with
  | case1 => rfl
  | case2 x =>
    have hx := hlt x
    simp only [encode, decode, h _ (show x.toNat / 4 < 64 by omega),
      h _ (show x.toNat % 4 * 16 < 64 by omega), Option.bind_eq_bind, Option.bind_some]
    rw [if_pos (by omega), ofNat_toNat_eq (b := x) (by omega)]
  | case3 x y =>
    have hx := hlt x
    have hy := hlt y
    simp only [encode, decode, h _ (show x.toNat / 4 < 64 by omega),
      h _ (show x.toNat % 4 * 16 + y.toNat / 16 < 64 by omega),
      h _ (show y.toNat % 16 * 4 < 64 by omega), Option.bind_eq_bind, Option.bind_some]
    rw [if_pos (by omega), ofNat_toNat_eq (b := x) (by omega), ofNat_toNat_eq (b := y) (by omega)]
  | case4 x y z rest ih =>
    have hx := hlt x
    have hy := hlt y
    have hz := hlt z
    simp only [encode, decode, h _ (show x.toNat / 4 < 64 by omega),
      h _ (show x.toNat % 4 * 16 + y.toNat / 16 < 64 by omega),
      h _ (show y.toNat % 16 * 4 + z.toNat / 64 < 64 by omega),
      h _ (show z.toNat % 64 < 64 by omega), ih, Option.bind_eq_bind, Option.bind_some]
    rw [ofNat_toNat_eq (b := x) (by omega), ofNat_toNat_eq (b := y) (by omega),
      ofNat_toNat_eq (b := z) (by omega)]

theorem exists_digit_of_mem_encode {bytes : Bytes} {c : Char} (hc : c ∈ encode a bytes) :
    ∃ n < 64, c = a.digit n := by
  have hlt := fun b : UInt8 => b.toNat_lt
  induction bytes using encode.induct with
  | case1 => cases hc
  | case2 x =>
    have hx := hlt x
    simp only [encode, List.mem_cons, List.not_mem_nil, or_false] at hc
    rcases hc with rfl | rfl
    all_goals exact ⟨_, by omega, rfl⟩
  | case3 x y =>
    have hx := hlt x
    have hy := hlt y
    simp only [encode, List.mem_cons, List.not_mem_nil, or_false] at hc
    rcases hc with rfl | rfl | rfl
    all_goals exact ⟨_, by omega, rfl⟩
  | case4 x y z rest ih =>
    have hx := hlt x
    have hy := hlt y
    have hz := hlt z
    simp only [encode, List.mem_cons] at hc
    rcases hc with rfl | rfl | rfl | rfl | hc
    · exact ⟨_, by omega, rfl⟩
    · exact ⟨_, by omega, rfl⟩
    · exact ⟨_, by omega, rfl⟩
    · exact ⟨_, by omega, rfl⟩
    · exact ih hc

theorem length_encode (a : Alphabet) (bytes : Bytes) :
    (encode a bytes).length = (4 * bytes.length + 2) / 3 := by
  induction bytes using encode.induct with
  | case1 => rfl
  | case2 x => simp [encode]
  | case3 x y => simp [encode]
  | case4 x y z rest ih =>
    simp only [encode, List.length_cons, ih]
    omega

theorem encode_eq_nil_iff {bytes : Bytes} : encode a bytes = [] ↔ bytes = [] := by
  constructor
  · intro h
    match bytes with
    | [] => rfl
    | [_] | [_, _] | _ :: _ :: _ :: _ => cases h
  · rintro rfl
    rfl

end UserAccounts.Base64
