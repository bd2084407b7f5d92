/-
# Texts that write whole numbers

A run of digits, of any length and with any zeros in front, writes the number that it
stands for in decimal (`IsNumeral`). A text writes a number if it is such a run, perhaps
behind a sign (`WritesNatural`, `Writes`).

Reading asks for no more and no less: a text is read as a number of a type exactly if
it writes the number and the number lies in the range of the type
(`readNatural_eq_ok_iff`, `readInteger_of_writes`). So the faults of reading are of two
kinds, that a text writes nothing (`readInteger_of_not_writes`) and that it writes what is
out of range.

Key definitions: `IsNumeral`, `WritesNatural`, `Writes`.
Key theorems: `magnitude?_eq_some_iff`, `readNatural_eq_ok_iff`, `readInteger_of_writes`,
`readInteger_of_not_writes`, `Writes.unique`.
-/
import UserAccounts.Proofs.Text.Digits

namespace UserAccounts.Text

/-- A run of digits, at least one, that writes the number in decimal. -/
structure IsNumeral (digits : List Char) (n : Nat) : Prop where
  ne_nil : digits ≠ []
  isDigit : ∀ c ∈ digits, c.isDigit = true
  value : Nat.ofDigitChars 10 digits 0 = n

/-- The text writes the number, behind a plus sign or without one. -/
inductive WritesNatural : List Char → Nat → Prop where
  | plain {digits : List Char} {n : Nat} (h : IsNumeral digits n) : WritesNatural digits n
  | plus {digits : List Char} {n : Nat} (h : IsNumeral digits n) : WritesNatural ('+' :: digits) n

/-- The text writes the number, behind a sign or without one. -/
inductive Writes : List Char → Int → Prop where
  | natural {cs : List Char} {n : Nat} (h : WritesNatural cs n) : Writes cs n
  | minus {digits : List Char} {n : Nat} (h : IsNumeral digits n) : Writes ('-' :: digits) (-n)

/-! ### Digits -/

theorem isDigit_of_digitsValue? {cs : List Char} {acc n : Nat} (h : digitsValue? cs acc = some n) :
    ∀ c ∈ cs, c.isDigit = true := by
  induction cs generalizing acc with
  | nil => exact nofun
  | cons c cs ih =>
    obtain ⟨d, hd, hrest⟩ := Option.bind_eq_some_iff.mp h
    refine List.forall_mem_cons.mpr ⟨?_, ih hrest⟩
    unfold digitValue? at hd
    split at hd
    · assumption
    · cases hd

theorem digitsValue?_eq_some_iff {cs : List Char} {acc n : Nat} :
    digitsValue? cs acc = some n ↔
      (∀ c ∈ cs, c.isDigit = true) ∧ Nat.ofDigitChars 10 cs acc = n := by
  constructor
  · intro h
    have hdigits := isDigit_of_digitsValue? h
    rw [digitsValue?_of_digits hdigits] at h
    exact ⟨hdigits, Option.some.inj h⟩
  · rintro ⟨hdigits, rfl⟩
    exact digitsValue?_of_digits hdigits acc

theorem magnitude?_eq_some_iff {cs : List Char} {n : Nat} :
    magnitude? cs = some n ↔ IsNumeral cs n := by
  cases cs with
  | nil => exact iff_of_false nofun fun h => h.ne_nil rfl
  | cons c cs =>
    have hread : magnitude? (c :: cs) = digitsValue? (c :: cs) 0 := rfl
    rw [hread, digitsValue?_eq_some_iff]
    exact ⟨fun h => ⟨List.cons_ne_nil c cs, h.1, h.2⟩, fun h => ⟨h.isDigit, h.value⟩⟩

theorem IsNumeral.unique {digits : List Char} {m n : Nat} (h : IsNumeral digits m)
    (h' : IsNumeral digits n) : m = n :=
  h.value.symm.trans h'.value

/-- A numeral begins with no sign. -/
theorem IsNumeral.head_isDigit {c : Char} {cs : List Char} {n : Nat} (h : IsNumeral (c :: cs) n) :
    c.isDigit = true :=
  h.isDigit c List.mem_cons_self

/-! ### Signs -/

section

variable {c : Char} {cs : List Char}

theorem writesNatural_plus_iff {n : Nat} : WritesNatural ('+' :: cs) n ↔ IsNumeral cs n := by
  constructor
  · intro h
    cases h with
    | plain h => exact absurd h.head_isDigit (by decide)
    | plus h => exact h
  · exact .plus

theorem writesNatural_iff_of_ne {n : Nat} (hplus : c ≠ '+') :
    WritesNatural (c :: cs) n ↔ IsNumeral (c :: cs) n := by
  constructor
  · intro h
    cases h with
    | plain h => exact h
    | plus h => exact absurd rfl hplus
  · exact .plain

theorem not_writesNatural_nil {n : Nat} : ¬ WritesNatural [] n := by
  intro h
  cases h with
  | plain h => exact h.ne_nil rfl

theorem not_writesNatural_minus {n : Nat} : ¬ WritesNatural ('-' :: cs) n := by
  intro h
  cases h with
  | plain h => exact absurd h.head_isDigit (by decide)

theorem writes_minus_iff {k : Int} : Writes ('-' :: cs) k ↔ ∃ n : Nat, IsNumeral cs n ∧ k = -n := by
  constructor
  · intro h
    cases h with
    | natural h => exact absurd h not_writesNatural_minus
    | minus h => exact ⟨_, h, rfl⟩
  · rintro ⟨n, h, rfl⟩
    exact .minus h

end

theorem WritesNatural.unique {cs : List Char} {m n : Nat} (h : WritesNatural cs m)
    (h' : WritesNatural cs n) : m = n := by
  cases h with
  | plain h =>
    cases h' with
    | plain h' => exact h.unique h'
    | plus h' => exact absurd h.head_isDigit (by decide)
  | plus h => exact h.unique (writesNatural_plus_iff.mp h')

theorem Writes.unique {cs : List Char} {m n : Int} (h : Writes cs m) (h' : Writes cs n) :
    m = n := by
  cases h with
  | natural h =>
    cases h' with
    | natural h' => rw [h.unique h']
    | minus h' => exact absurd h not_writesNatural_minus
  | minus h =>
    obtain ⟨k, hk, rfl⟩ := writes_minus_iff.mp h'
    rw [h.unique hk]

/-! ### Reading -/

/-- Behind a plus sign there are digits, and no more than are allowed. -/
theorem readNatural_plus_iff {high n : Nat} {digits : List Char} :
    readNatural high ('+' :: digits) = .ok n ↔ IsNumeral digits n ∧ n ≤ high := by
  rw [← magnitude?_eq_some_iff]
  simp only [readNatural]
  cases magnitude? digits with
  | none => simp
  | some k =>
    simp only [Option.some_inj]
    by_cases hk : high < k
    · rw [if_pos hk]
      constructor
      · intro h
        cases h
      · rintro ⟨rfl, hle⟩
        omega
    · rw [if_neg hk]
      constructor
      · intro h
        obtain rfl := Except.ok.inj h
        exact ⟨rfl, by omega⟩
      · rintro ⟨rfl, -⟩
        rfl

/-- A text without a sign is read as it is behind a plus sign. -/
theorem readNatural_of_ne {c : Char} (hplus : c ≠ '+') (high : Nat) (cs : List Char) :
    readNatural high (c :: cs) = readNatural high ('+' :: c :: cs) := by
  unfold readNatural
  split
  · rename_i h
    cases h
  · rename_i h
    exact absurd (List.cons.inj h).1 hplus
  · rfl

/-- **A natural number is read exactly of a text that writes it**, if it is not too large. -/
theorem readNatural_eq_ok_iff {high n : Nat} {cs : List Char} :
    readNatural high cs = .ok n ↔ WritesNatural cs n ∧ n ≤ high := by
  cases cs with
  | nil =>
    constructor
    · intro h
      cases h
    · intro h
      exact absurd h.1 not_writesNatural_nil
  | cons c cs =>
    by_cases hplus : c = '+'
    · subst hplus
      rw [writesNatural_plus_iff]
      exact readNatural_plus_iff
    · rw [writesNatural_iff_of_ne hplus, readNatural_of_ne hplus]
      exact readNatural_plus_iff

section

variable {low high : Int} {cs : List Char}

/-- A text that writes an integer is read as this integer, unless it lies out of range. -/
theorem readInteger_of_writes (hlow : low ≤ 0) (hhigh : 0 ≤ high) {n : Int} (h : Writes cs n) :
    readInteger low high cs =
      if n < low then .error .tooSmall else if high < n then .error .tooLarge else .ok n := by
  cases h with
  | @natural _ n h =>
    have hfits : ¬ (n : Int) < low := by omega
    rw [if_neg hfits]
    cases h with
    | plain h =>
      obtain _ | ⟨c, rest⟩ := cs
      · exact absurd rfl h.ne_nil
      have hminus : c ≠ '-' := by
        rintro rfl
        exact absurd h.head_isDigit (by decide)
      have hplus : c ≠ '+' := by
        rintro rfl
        exact absurd h.head_isDigit (by decide)
      unfold readInteger
      split
      · rename_i he
        cases he
      · rename_i he
        exact absurd (List.cons.inj he).1 hminus
      · rename_i he
        exact absurd (List.cons.inj he).1 hplus
      · rw [magnitude?_eq_some_iff.mpr h]
    | plus h =>
      simp only [readInteger, magnitude?_eq_some_iff.mpr h]
  | @minus _ n h =>
    have hfits : ¬ high < -(n : Int) := by omega
    simp only [readInteger, magnitude?_eq_some_iff.mpr h, if_neg hfits]

/-- A text that writes no integer is not read. -/
theorem readInteger_of_not_writes (low high : Int) (h : ¬ ∃ n, Writes cs n) :
    ∃ fault, readInteger low high cs = .error fault := by
  have hnone : ∀ digits : List Char, (∀ n, ¬ IsNumeral digits n) → magnitude? digits = none := by
    intro digits hnot
    rw [Option.eq_none_iff_forall_ne_some]
    exact fun n hn => hnot n (magnitude?_eq_some_iff.mp hn)
  unfold readInteger
  split
  · exact ⟨_, rfl⟩
  · rw [hnone _ fun n hn => h ⟨_, .minus hn⟩]
    exact ⟨_, rfl⟩
  · rw [hnone _ fun n hn => h ⟨_, .natural (.plus hn)⟩]
    exact ⟨_, rfl⟩
  · rw [hnone _ fun n hn => h ⟨_, .natural (.plain hn)⟩]
    exact ⟨_, rfl⟩

end

end UserAccounts.Text
