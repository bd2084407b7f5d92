/-
# Texts are in the order of their bytes

A character is written as a lead byte and continuation bytes, with six bits in each
(`exists_encodeChar_eq`). Characters with more of them have greater lead bytes, and of two
with as many the bits decide from the front (`continuation_append_lt`). So of two texts
the one whose characters come first has the bytes that come first (`encode_lt_iff`).

Key definitions: `continuation`, `leadStart`, `codeStart`.
Key theorems: `exists_encodeChar_eq`, `encodeChar_append_lt`, `encode_lt_iff`,
`encode_le_iff`.
-/
import Mathlib.Algebra.Group.Nat.Defs
import UserAccounts.Proofs.Text.Utf8

namespace UserAccounts.Utf8

/-- The last `count` continuation bytes of a code point. -/
def continuation : Nat → Nat → Bytes
  | 0, _ => []
  | count + 1, code => .ofNat (code / 64 ^ count % 64 + 128) :: continuation count code

/-- The least lead byte in front of so many continuation bytes. -/
def leadStart : Nat → Nat
  | 0 => 0
  | 1 => 0xC0
  | 2 => 0xE0
  | 3 => 0xF0
  | _ => 0xF8

/-- The least code point with so many continuation bytes. -/
def codeStart : Nat → Nat
  | 0 => 0
  | 1 => 0x80
  | 2 => 0x800
  | 3 => 0x10000
  | _ => 0x110000

/-! ### Characters -/

theorem exists_encodeChar_eq (c : Char) :
    ∃ count ≤ 3, codeStart count ≤ c.toNat ∧ c.toNat < codeStart (count + 1) ∧
      String.utf8EncodeChar c =
        .ofNat (c.toNat / 64 ^ count + leadStart count) :: continuation count c.toNat := by
  have hvalid : c.toNat < 0xD800 ∨ (0xDFFF < c.toNat ∧ c.toNat < 0x110000) := c.valid
  have hwritten : String.utf8EncodeChar c = _ := String.utf8EncodeChar.eq_1 c
  rw [show c.val.toNat = c.toNat from rfl] at hwritten
  generalize c.toNat = code at *
  rw [hwritten]
  by_cases hone : code ≤ 0x7F
  · rw [if_pos hone]
    exact ⟨0, by decide, Nat.zero_le code, Nat.lt_succ_of_le hone,
      by simp [leadStart, continuation]⟩
  rw [if_neg hone]
  by_cases htwo : code ≤ 0x7FF
  · rw [if_pos htwo, show code / 64 % 32 = code / 64 by omega]
    exact ⟨1, by decide, Nat.lt_of_not_le hone, Nat.lt_succ_of_le htwo,
      by simp [leadStart, continuation]⟩
  rw [if_neg htwo]
  by_cases hthree : code ≤ 0xFFFF
  · rw [if_pos hthree, show code / 4096 % 16 = code / 4096 by omega]
    exact ⟨2, by decide, Nat.lt_of_not_le htwo, Nat.lt_succ_of_le hthree,
      by simp [leadStart, continuation]⟩
  · rw [if_neg hthree, show code / 262144 % 8 = code / 262144 by omega]
    have hhigh : code < 0x110000 := by omega
    exact ⟨3, by decide, Nat.lt_of_not_le hthree, hhigh, by simp [leadStart, continuation]⟩

/-- A lead byte lies before those in front of more continuation bytes. -/
theorem lead_lt {count code : Nat} (hcount : count ≤ 3) (hhigh : code < codeStart (count + 1)) :
    code / 64 ^ count + leadStart count < leadStart (count + 1) := by
  have hcases : count = 0 ∨ count = 1 ∨ count = 2 ∨ count = 3 := by omega
  rcases hcases with rfl | rfl | rfl | rfl <;> simp only [codeStart, leadStart] at * <;> omega

theorem leadStart_le {m n : Nat} (h : m ≤ n) (hn : n ≤ 4) : leadStart m ≤ leadStart n := by
  have hall : ∀ n ≤ 4, ∀ m ≤ n, leadStart m ≤ leadStart n := by decide
  exact hall n hn m h

theorem codeStart_le {m n : Nat} (h : m ≤ n) (hn : n ≤ 4) : codeStart m ≤ codeStart n := by
  have hall : ∀ n ≤ 4, ∀ m ≤ n, codeStart m ≤ codeStart n := by decide
  exact hall n hn m h

theorem ofNat_lt_iff {m n : Nat} (hm : m < 256) (hn : n < 256) :
    UInt8.ofNat m < UInt8.ofNat n ↔ m < n := by
  rw [UInt8.lt_iff_toNat_lt, UInt8.toNat_ofNat_of_lt' hm, UInt8.toNat_ofNat_of_lt' hn]

/-- Code points that agree before their continuation bytes are in the order of these. -/
theorem continuation_append_lt {count m n : Nat} (hless : m < n)
    (hlead : m / 64 ^ count = n / 64 ^ count) (rest more : Bytes) :
    continuation count m ++ rest < continuation count n ++ more := by
  induction count with
  | zero =>
    rw [Nat.pow_zero, Nat.div_one, Nat.div_one] at hlead
    omega
  | succ count ih =>
    rw [Nat.pow_succ, ← Nat.div_div_eq_div_mul, ← Nat.div_div_eq_div_mul] at hlead
    have hle : m / 64 ^ count ≤ n / 64 ^ count := Nat.div_le_div_right (Nat.le_of_lt hless)
    rw [continuation, continuation, List.cons_append, List.cons_append, List.cons_lt_cons_iff,
      ofNat_lt_iff (by omega) (by omega)]
    by_cases hsame : m / 64 ^ count = n / 64 ^ count
    · rw [hsame]
      exact .inr ⟨rfl, ih hsame⟩
    · exact .inl (by omega)

/-- A character before another has bytes before the other's, whatever follows. -/
theorem encodeChar_append_lt {c d : Char} (h : c < d) (rest more : Bytes) :
    String.utf8EncodeChar c ++ rest < String.utf8EncodeChar d ++ more := by
  have hless : c.toNat < d.toNat := h
  obtain ⟨j, hj, hclow, hchigh, hc⟩ := exists_encodeChar_eq c
  obtain ⟨k, hk, hdlow, hdhigh, hd⟩ := exists_encodeChar_eq d
  have hclead := lead_lt hj hchigh
  have hdlead := lead_lt hk hdhigh
  have hcmost := leadStart_le (show j + 1 ≤ 4 by omega) (Nat.le_refl 4)
  have hdmost := leadStart_le (show k + 1 ≤ 4 by omega) (Nat.le_refl 4)
  have hmost : leadStart 4 = 0xF8 := rfl
  rw [hc, hd, List.cons_append, List.cons_append, List.cons_lt_cons_iff,
    ofNat_lt_iff (by omega) (by omega)]
  rcases Nat.lt_trichotomy j k with hfewer | rfl | hmore
  · have hstart := leadStart_le (show j + 1 ≤ k from hfewer) (by omega)
    exact .inl (Nat.lt_of_lt_of_le hclead (Nat.le_trans hstart (Nat.le_add_left _ _)))
  · have hle : c.toNat / 64 ^ j ≤ d.toNat / 64 ^ j := Nat.div_le_div_right (Nat.le_of_lt hless)
    by_cases hsame : c.toNat / 64 ^ j = d.toNat / 64 ^ j
    · rw [hsame]
      exact .inr ⟨rfl, continuation_append_lt hless hsame rest more⟩
    · exact .inl (by omega)
  · have hstart := codeStart_le (show k + 1 ≤ j from hmore) (by omega)
    omega

/-! ### Texts -/

theorem bytesOf_cons_ne_nil (c : Char) (chars : List Char) : bytesOf (c :: chars) ≠ [] := by
  obtain ⟨_, -, -, -, hc⟩ := exists_encodeChar_eq c
  rw [bytesOf_cons, hc]
  exact List.cons_ne_nil _ _

theorem append_lt_append_left {bytes others : Bytes} (before : Bytes) (h : bytes < others) :
    before ++ bytes < before ++ others := by
  induction before with
  | nil => exact h
  | cons b before ih => exact List.cons_lt_cons_iff.mpr (.inr ⟨rfl, ih⟩)

theorem bytesOf_lt {chars others : List Char} (h : chars < others) :
    bytesOf chars < bytesOf others := by
  induction h with
  | @nil c others =>
    obtain ⟨b, more, hbytes⟩ := List.exists_cons_of_ne_nil (bytesOf_cons_ne_nil c others)
    rw [hbytes]
    exact .nil
  | @cons c chars others _ ih =>
    rw [bytesOf_cons, bytesOf_cons]
    exact append_lt_append_left _ ih
  | rel h => exact encodeChar_append_lt h _ _

/-- **Texts are in the order of their bytes.** -/
theorem encode_lt_iff {s t : String} : encode s < encode t ↔ s < t := by
  have hlt : ∀ {s t : String}, s < t → encode s < encode t := fun h => bytesOf_lt h
  refine ⟨fun h => ?_, hlt⟩
  apply String.not_le.mp
  intro hle
  by_cases hsame : s = t
  · subst hsame
    exact List.lt_irrefl _ h
  · have hless : t < s := String.not_le.mp fun hge => hsame (String.le_antisymm hge hle)
    exact List.lt_irrefl _ (List.lt_trans h (hlt hless))

theorem encode_le_iff {s t : String} : encode s ≤ encode t ↔ s ≤ t := by
  rw [← List.not_lt, ← String.not_lt, encode_lt_iff]

end UserAccounts.Utf8
