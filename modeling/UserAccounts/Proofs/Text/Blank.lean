/-
# Blanks, and texts without the blanks around them

Trimming takes a text apart into blanks, what is left, and blanks again, where what is
left neither begins nor ends with a blank (`IsTrimOf`). There is one way to do so
(`trimmedChars_eq_iff`); of a text of blanks alone nothing is left.

Like blanks, control characters are not seen. In ASCII those that are seen are the ones
between the space and the delete character (`isInvisible_of_between`).

Key definitions: `IsTrimOf`, `isControl`, `isInvisible`, `isAsciiInvisible`.
Key theorems: `dropWhile_eq_iff`, `span_eq_iff`, `trimmedChars_eq_iff`,
`isAsciiInvisible_iff`.
-/
import Mathlib.Data.List.TakeDrop
import UserAccounts.Text.Blank

namespace UserAccounts.Text

/-! ### Trimming -/

/-- What is left of a text without the blanks around it. -/
structure IsTrimOf (inner cs : List Char) : Prop where
  around : ∃ before after, cs = before ++ inner ++ after ∧
    (∀ c ∈ before, isBlank c = true) ∧ ∀ c ∈ after, isBlank c = true
  head : ∀ c, inner.head? = some c → isBlank c = false
  last : ∀ c, inner.getLast? = some c → isBlank c = false

/-- What is dropped from the front ends where something else begins. -/
theorem dropWhile_eq_iff {p : Char → Bool} {cs rest : List Char} :
    cs.dropWhile p = rest ↔ (∃ before, cs = before ++ rest ∧ ∀ c ∈ before, p c = true) ∧
      ∀ c, rest.head? = some c → p c = false := by
  constructor
  · rintro rfl
    refine ⟨⟨cs.takeWhile p, List.takeWhile_append_dropWhile.symm, ?_⟩, ?_⟩
    · exact fun c hc => List.all_eq_true.mp List.all_takeWhile c hc
    · intro c hc
      have hstop := List.head?_dropWhile_not p cs
      rw [hc] at hstop
      exact hstop
  · rintro ⟨⟨before, rfl, hbefore⟩, hstop⟩
    rw [List.dropWhile_append_of_pos hbefore]
    cases rest with
    | nil => rfl
    | cons c rest => exact List.dropWhile_cons_of_neg (by rw [hstop c rfl]; decide)

/-- Where a text is parted. -/
theorem span_eq_iff {p : Char → Bool} {cs front rest : List Char} :
    cs.span p = (front, rest) ↔ cs = front ++ rest ∧ (∀ c ∈ front, p c = true) ∧
      ∀ c, rest.head? = some c → p c = false := by
  rw [List.span_eq_takeWhile_dropWhile, Prod.mk.injEq]
  constructor
  · rintro ⟨rfl, rfl⟩
    obtain ⟨-, hstop⟩ := dropWhile_eq_iff.mp (rfl : cs.dropWhile p = cs.dropWhile p)
    exact ⟨List.takeWhile_append_dropWhile.symm, List.all_eq_true.mp List.all_takeWhile, hstop⟩
  · rintro ⟨rfl, hfront, hstop⟩
    have hrest : (front ++ rest).dropWhile p = rest :=
      dropWhile_eq_iff.mpr ⟨⟨front, rfl, hfront⟩, hstop⟩
    have hparts := List.takeWhile_append_dropWhile (p := p) (l := front ++ rest)
    rw [hrest, List.append_cancel_right_eq] at hparts
    exact ⟨hparts, hrest⟩

/-- **What trimming leaves.** -/
theorem trimmedChars_eq_iff {cs inner : List Char} :
    trimmedChars cs = inner ↔ IsTrimOf inner cs := by
  have hreverse : trimmedChars cs = inner ↔
      (cs.dropWhile isBlank).reverse.dropWhile isBlank = inner.reverse := by
    unfold trimmedChars
    rw [List.reverse_eq_iff]
  rw [hreverse, dropWhile_eq_iff, List.head?_reverse]
  constructor
  · rintro ⟨⟨after, hmiddle, hafter⟩, hlast⟩
    have hmiddle' : cs.dropWhile isBlank = inner ++ after.reverse := by
      rw [← List.reverse_inj, hmiddle, List.reverse_append, List.reverse_reverse]
    obtain ⟨⟨before, hcs, hbefore⟩, hhead⟩ := dropWhile_eq_iff.mp hmiddle'
    refine ⟨⟨before, after.reverse, ?_, hbefore, ?_⟩, ?_, hlast⟩
    · rw [List.append_assoc]
      exact hcs
    · exact fun c hc => hafter c (List.mem_reverse.mp hc)
    · intro c hc
      exact hhead c (by rw [List.head?_append, hc]; rfl)
  · rintro ⟨⟨before, after, hcs, hbefore, hafter⟩, hhead, hlast⟩
    cases inner with
    | nil =>
      -- All is blank, so that nothing is left at the first end.
      have hall : ∀ c ∈ before ++ after, isBlank c = true := fun c hc =>
        (List.mem_append.mp hc).elim (hbefore c) (hafter c)
      have hnothing : cs.dropWhile isBlank = [] :=
        dropWhile_eq_iff.mpr ⟨⟨before ++ after, by rw [hcs]; simp, hall⟩, nofun⟩
      exact ⟨⟨[], by rw [hnothing]; rfl, nofun⟩, hlast⟩
    | cons d inner =>
      have hmiddle : cs.dropWhile isBlank = d :: inner ++ after := by
        refine dropWhile_eq_iff.mpr ⟨⟨before, ?_, hbefore⟩, ?_⟩
        · rw [hcs, List.append_assoc]
        · exact fun c hc => hhead c hc
      refine ⟨⟨after.reverse, ?_, ?_⟩, hlast⟩
      · rw [hmiddle, List.reverse_append]
      · exact fun c hc => hafter c (List.mem_reverse.mp hc)

/-! ### Characters that are not seen -/

def isControl (c : Char) : Bool :=
  c.toNat < 0x20 || (0x7f ≤ c.toNat && c.toNat ≤ 0x9f)

def isInvisible (c : Char) : Bool :=
  isBlank c || isControl c

/-- A blank or a control character of ASCII. -/
def isAsciiInvisible (c : Char) : Bool :=
  c.toNat ≤ 0x20 || c.toNat == 0x7f

theorem isAsciiInvisible_iff {c : Char} :
    isAsciiInvisible c = true ↔ c.toNat < 0x80 ∧ isInvisible c = true := by
  simp only [isAsciiInvisible, isInvisible, isBlank, isControl, Bool.or_eq_true,
    Bool.and_eq_true, decide_eq_true_eq, beq_iff_eq]
  omega

theorem isInvisible_of_between {c : Char} (hlow : 0x20 < c.toNat) (hhigh : c.toNat < 0x7f) :
    isInvisible c = false := by
  rw [Bool.eq_false_iff]
  intro h
  have hascii := isAsciiInvisible_iff.mpr ⟨Nat.lt_succ_of_lt hhigh, h⟩
  simp only [isAsciiInvisible, Bool.or_eq_true, decide_eq_true_eq, beq_iff_eq] at hascii
  omega

theorem isInvisible_of_range (low high : Char) {c : Char} (hlow : 0x20 < low.toNat)
    (hhigh : high.toNat < 0x7f) (h : (decide (low ≤ c) && decide (c ≤ high)) = true) :
    isInvisible c = false := by
  rw [Bool.and_eq_true, decide_eq_true_eq, decide_eq_true_eq] at h
  exact isInvisible_of_between (Nat.lt_of_lt_of_le hlow h.1) (Nat.lt_of_le_of_lt h.2 hhigh)

theorem toNat_of_isAlphanum {c : Char} (h : c.isAlphanum = true) :
    0x30 ≤ c.toNat ∧ c.toNat ≤ 0x7a := by
  rcases Bool.or_eq_true_iff.mp h with hletter | hdigit
  · rcases Bool.or_eq_true_iff.mp hletter with hupper | hlower
    · have hbounds : 0x41 ≤ c.toNat ∧ c.toNat ≤ 0x5a := of_decide_eq_true hupper
      omega
    · obtain ⟨hlow, hhigh⟩ := Bool.and_eq_true_iff.mp hlower
      have hbounds : 0x61 ≤ c.toNat ∧ c.toNat ≤ 0x7a :=
        ⟨of_decide_eq_true hlow, of_decide_eq_true hhigh⟩
      omega
  · obtain ⟨hlow, hhigh⟩ := Bool.and_eq_true_iff.mp hdigit
    have hbounds : 0x30 ≤ c.toNat ∧ c.toNat ≤ 0x39 :=
      ⟨of_decide_eq_true hlow, of_decide_eq_true hhigh⟩
    omega

theorem isInvisible_of_isAlphanum {c : Char} (h : c.isAlphanum = true) : isInvisible c = false := by
  obtain ⟨hlow, hhigh⟩ := toNat_of_isAlphanum h
  exact isInvisible_of_between (by omega) (by omega)

end UserAccounts.Text
