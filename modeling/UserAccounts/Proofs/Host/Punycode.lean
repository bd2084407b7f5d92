/-
# What a label and its Punycode have in common

Whatever stands in a label's Punycode is a digit of a number, the hyphen before the
numbers, or stands in the label as well: reading does not get past anything but a digit
(`digit_of_insertAll`), and inserts without taking anything away (`mem_of_insertAll`). The
other way round, the characters of ASCII in a label stand in its Punycode as they are
(`mem_encode`).

Key theorems: `digit_of_insertAll`, `mem_of_insertAll`, `mem_decode`, `mem_encode`.
-/
import UserAccounts.Host.Punycode

namespace UserAccounts.Punycode

variable {c : Char}

/-! ### Reading -/

/-- A number is read from digits; what is left stood there before. -/
theorem mem_of_readNumber {bias : Nat} {cs rest : List Char} {k weight total n : Nat}
    (h : readNumber bias cs k weight total = some (n, rest)) (hc : c ∈ cs) :
    (digitValue? c).isSome ∨ c ∈ rest := by
  fun_induction readNumber bias cs k weight total with
  | case1 => cases hc
  | case2 => cases h
  | case3 => cases h
  | case4 k weight total d cs digit hdigit hlimit t hend =>
    obtain ⟨-, rfl⟩ := Prod.mk.inj (Option.some.inj h)
    rcases List.mem_cons.mp hc with rfl | hc
    · exact .inl (by rw [hdigit]; rfl)
    · exact .inr hc
  | case5 => cases h
  | case6 k weight total d cs digit hdigit hlimit t hmore hweight ih =>
    rcases List.mem_cons.mp hc with rfl | hc
    · exact .inl (by rw [hdigit]; rfl)
    · exact ih h hc

theorem digit_of_insertAll {input out label : List Char} {code place bias : Nat}
    (h : insertAll input out code place bias = some label) (hc : c ∈ input) :
    (digitValue? c).isSome := by
  fun_induction insertAll input out code place bias with
  | case1 input out code place bias hempty =>
    rw [List.isEmpty_iff.mp hempty] at hc
    cases hc
  | case2 => cases h
  | case3 => cases h
  | case4 input out _ _ _ _ _ _ hread _ _ _ _ _ ih =>
    exact (mem_of_readNumber hread hc).elim id (ih h)
  | case5 => cases h

theorem mem_of_insertAll {input out label : List Char} {code place bias : Nat}
    (h : insertAll input out code place bias = some label) (hc : c ∈ out) : c ∈ label := by
  fun_induction insertAll input out code place bias with
  | case1 =>
    rw [← Option.some.inj h]
    exact hc
  | case2 => cases h
  | case3 => cases h
  | case4 input out code place bias _ total _ _ places _ _ _ _ ih =>
    have hplace : total % places ≤ out.length :=
      Nat.le_of_lt_succ (Nat.mod_lt total (Nat.zero_lt_succ _))
    exact ih h ((List.mem_insertIdx hplace).mpr (.inr hc))
  | case5 => cases h

/-- The last hyphen parts a text in two, unless nothing stands before it. -/
theorem splitAtLastHyphen_spec (cs : List Char) :
    ((splitAtLastHyphen cs).1 = [] ∧ (splitAtLastHyphen cs).2 = cs) ∨
      cs = (splitAtLastHyphen cs).1 ++ '-' :: (splitAtLastHyphen cs).2 := by
  let behind := (cs.reverse.takeWhile (· != '-')).reverse
  let before := (cs.reverse.dropWhile (· != '-')).reverse
  have hparts : cs = before ++ behind := by
    rw [← List.reverse_append, List.takeWhile_append_dropWhile, List.reverse_reverse]
  have htake : cs.take (cs.length - behind.length) = before := by
    rw [hparts, List.length_append, Nat.add_sub_cancel, List.take_left]
  have hhyphen : before = [] ∨ before = before.dropLast ++ ['-'] := by
    have hstop := List.head?_dropWhile_not (· != '-') cs.reverse
    cases hrest : cs.reverse.dropWhile (· != '-') with
    | nil => exact .inl (by simp only [before, hrest]; rfl)
    | cons d rest =>
      rw [hrest] at hstop
      obtain rfl : d = '-' := by simpa using hstop
      exact .inr (by simp [before, hrest])
  have hsplit : splitAtLastHyphen cs =
      if before.dropLast = [] then ([], cs) else (before.dropLast, behind) := by
    unfold splitAtLastHyphen
    simp only [behind, before] at htake ⊢
    rw [htake]
    cases (cs.reverse.dropWhile (· != '-')).reverse.dropLast with
    | nil => rw [if_pos rfl]
    | cons d basic => rw [if_neg (List.cons_ne_nil d basic)]
  rw [hsplit]
  by_cases hbasic : before.dropLast = []
  · rw [if_pos hbasic]
    exact .inl ⟨rfl, rfl⟩
  · rw [if_neg hbasic]
    have hlast : before = before.dropLast ++ ['-'] :=
      hhyphen.resolve_left fun hnone => hbasic (by rw [hnone]; rfl)
    refine .inr ?_
    calc cs = before ++ behind := hparts
      _ = (before.dropLast ++ ['-']) ++ behind := by rw [← hlast]
      _ = before.dropLast ++ '-' :: behind := List.append_assoc _ _ _

/-- **What stands in Punycode is digits and hyphens, or stands in the label.** -/
theorem mem_decode {cs label : List Char} (h : decode cs = some label) (hc : c ∈ cs)
    (hdigit : digitValue? c = none) (hhyphen : c ≠ '-') : c ∈ label := by
  unfold decode at h
  simp only at h
  split at h
  · have hnot : c ∉ (splitAtLastHyphen cs).2 := fun hmem => by
      have hsome := digit_of_insertAll h hmem
      rw [hdigit] at hsome
      cases hsome
    rcases splitAtLastHyphen_spec cs with ⟨-, hall⟩ | hparts
    · rw [hall] at hnot
      exact absurd hc hnot
    · rw [hparts, List.mem_append, List.mem_cons] at hc
      rcases hc with hc | hc | hc
      · exact mem_of_insertAll h hc
      · exact absurd hc hhyphen
      · exact absurd hc hnot
  · cases h

/-! ### Writing -/

theorem Progress.mem_pass {basic code : Nat} {p : Progress} (hc : c ∈ p.written) (d : Char) :
    c ∈ (p.pass basic code d).written := by
  unfold Progress.pass
  split
  · exact hc
  · split
    · exact List.mem_append_right _ hc
    · exact hc

theorem Progress.mem_foldl_pass {basic code : Nat} {p : Progress} (hc : c ∈ p.written)
    (label : List Char) : c ∈ (label.foldl (Progress.pass basic code) p).written := by
  induction label generalizing p with
  | nil => exact hc
  | cons d label ih => exact ih (p.mem_pass hc d)

theorem mem_writeAll {label : List Char} {basic code : Nat} {codes : List Nat} {p q : Progress}
    (h : writeAll label basic codes code p = some q) (hc : c ∈ p.written) : c ∈ q.written := by
  induction codes generalizing code p with
  | nil =>
    rw [← Option.some.inj h]
    exact hc
  | cons next codes ih =>
    rw [writeAll] at h
    split at h
    · cases h
    · refine ih h (Progress.mem_foldl_pass ?_ label)
      exact hc

/-- **The characters of ASCII in a label stand in its Punycode.** -/
theorem mem_encode {label code : List Char} (h : encode label = some code) (hc : c ∈ label)
    (hascii : c.toNat < 128) : c ∈ code := by
  obtain ⟨p, hp, rfl⟩ := Option.map_eq_some_iff.mp h
  have hbasic : c ∈ label.filter fun d => d.toNat < 128 :=
    List.mem_filter.mpr ⟨hc, decide_eq_true hascii⟩
  rw [List.mem_reverse]
  refine mem_writeAll hp ?_
  rw [if_neg (by simpa using List.ne_nil_of_mem hbasic)]
  exact List.mem_cons_of_mem _ (List.mem_reverse.mpr hbasic)

end UserAccounts.Punycode
