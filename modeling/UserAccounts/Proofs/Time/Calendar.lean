/-
# Days and dates

Dates that are in the calendar (`Date.Valid`) and days stand in a one to one
correspondence that keeps their order. `Date.toDay` counts the days up to a date: those
of the years before it, those of the months before it, and those of its month. That it
counts rightly follows from the lengths of months and years alone: from one date to the
next (`Date.next`) it goes up by one (`Date.toDay_next`).

`Date.ofDay` goes the other way, by division. What it takes for the year is the year
because the days of the cycle, the century, the group of four years and the single year
add up to the days before it (`exists_year_ofDay`); only the last day of a leap year,
and of a cycle, would begin a year too many, and there it stops short. The months are
then found one after another (`monthAndDay_eq`). So the date of a day is in the calendar
and is that many days from 1970-01-01 (`Date.toDay_ofDay`).

Key definitions: `monthLength`, `Date.Valid`, `Date.Before`, `Date.next`.
Key theorems: `daysBeforeYear_succ`, `Date.toDay_ofDay`, `Date.toDay_lt_iff`,
`Date.ofDay_succ`.
-/
import Mathlib.Algebra.Ring.Nat
import Mathlib.Data.List.GetD
import UserAccounts.Time.Calendar

namespace UserAccounts.Time

/-! ### Years -/

def yearLength (year : Int) : Nat :=
  if isLeap year then 366 else 365

theorem isLeap_iff {year : Int} :
    isLeap year = true ↔ year % 4 = 0 ∧ (year % 100 ≠ 0 ∨ year % 400 = 0) := by
  simp [isLeap]

theorem yearLength_eq (year : Int) :
    year % 4 = 0 ∧ (year % 100 ≠ 0 ∨ year % 400 = 0) ∧ yearLength year = 366 ∨
      ¬ (year % 4 = 0 ∧ (year % 100 ≠ 0 ∨ year % 400 = 0)) ∧ yearLength year = 365 := by
  unfold yearLength
  by_cases h : isLeap year = true
  · rw [if_pos h]
    obtain ⟨hfour, hcentury⟩ := isLeap_iff.mp h
    exact .inl ⟨hfour, hcentury, rfl⟩
  · rw [if_neg h]
    exact .inr ⟨mt isLeap_iff.mpr h, rfl⟩

/-- A year begins when the one before it has gone by. -/
theorem daysBeforeYear_succ (year : Int) :
    daysBeforeYear (year + 1) = daysBeforeYear year + yearLength year := by
  have hlength := yearLength_eq year
  unfold daysBeforeYear
  omega

/-- A later year begins when the earlier one has gone by. -/
theorem daysBeforeYear_add_le {year later : Int} (h : year < later) :
    daysBeforeYear year + yearLength year ≤ daysBeforeYear later := by
  obtain ⟨n, rfl⟩ : ∃ n : Nat, later = year + 1 + n := ⟨(later - year - 1).toNat, by omega⟩
  induction n with
  | zero =>
    rw [← daysBeforeYear_succ]
    simp
  | succ n ih =>
    have hnext := daysBeforeYear_succ (year + 1 + n)
    have hsum : year + 1 + ((n + 1 : Nat) : Int) = year + 1 + n + 1 := by omega
    have hle := ih (by omega)
    rw [hsum, hnext]
    omega

/-! ### Months -/

def monthLength (leap : Bool) (month : Nat) : Nat :=
  (monthLengths leap).getD (month - 1) 0

/-- The number of days of the year before a month. -/
def daysBeforeMonth (leap : Bool) (month : Nat) : Nat :=
  ((monthLengths leap).take (month - 1)).sum

theorem monthLength_le (leap : Bool) (month : Nat) : monthLength leap month ≤ 31 := by
  have hall : ∀ leap : Bool, ∀ length ∈ monthLengths leap, length ≤ 31 := by decide
  unfold monthLength
  by_cases hin : month - 1 < (monthLengths leap).length
  · rw [List.getD_eq_getElem _ _ hin]
    exact hall leap _ (List.getElem_mem hin)
  · rw [List.getD_eq_default _ _ (Nat.le_of_not_lt hin)]
    exact Nat.zero_le 31

theorem sum_monthLengths (year : Int) : (monthLengths (isLeap year)).sum = yearLength year := by
  unfold yearLength
  cases isLeap year <;> rfl

theorem daysBeforeMonth_add_le (leap : Bool) {month later : Nat} (hmonth : 1 ≤ month)
    (h : month < later) (hlater : later ≤ 12) :
    daysBeforeMonth leap month + monthLength leap month ≤ daysBeforeMonth leap later := by
  have hall : ∀ leap : Bool, ∀ later < 13, ∀ month < later, 1 ≤ month →
      daysBeforeMonth leap month + monthLength leap month ≤ daysBeforeMonth leap later := by
    decide
  exact hall leap later (by omega) month h hmonth

theorem daysBeforeMonth_succ (leap : Bool) {month : Nat} (hmonth : 1 ≤ month) (h : month < 12) :
    daysBeforeMonth leap (month + 1) = daysBeforeMonth leap month + monthLength leap month := by
  have hall : ∀ leap : Bool, ∀ month < 12, 1 ≤ month →
      daysBeforeMonth leap (month + 1) = daysBeforeMonth leap month + monthLength leap month := by
    decide
  exact hall leap month h hmonth

theorem daysBeforeMonth_last (year : Int) :
    daysBeforeMonth (isLeap year) 12 + monthLength (isLeap year) 12 = yearLength year := by
  unfold yearLength
  cases isLeap year <;> rfl

/-- A month is found by leaving out the months that have gone by. -/
theorem monthAndDay_eq : ∀ (lengths : List Nat) (month days : Nat), days < lengths.sum →
    ∃ i < lengths.length,
      monthAndDay lengths month days = (month + i, days - (lengths.take i).sum + 1) ∧
      (lengths.take i).sum ≤ days ∧ days < (lengths.take i).sum + lengths.getD i 0
  | [], _, _, h => absurd h (Nat.not_lt_zero _)
  | [n], month, days, h => ⟨0, Nat.zero_lt_one, rfl, Nat.zero_le _, by simpa using h⟩
  | n :: next :: lengths, month, days, h => by
    have hstep : monthAndDay (n :: next :: lengths) month days =
        if days < n then (month, days + 1)
        else monthAndDay (next :: lengths) (month + 1) (days - n) := rfl
    by_cases hfirst : days < n
    · refine ⟨0, by simp, ?_, Nat.zero_le _, by simpa using hfirst⟩
      rw [hstep, if_pos hfirst]
      rfl
    · have hrest : days - n < (next :: lengths).sum := by
        rw [List.sum_cons] at h
        omega
      obtain ⟨i, hi, heq, hle, hlt⟩ := monthAndDay_eq (next :: lengths) (month + 1) (days - n) hrest
      refine ⟨i + 1, Nat.succ_lt_succ hi, ?_, ?_, ?_⟩
      · rw [hstep, if_neg hfirst, heq, List.take_succ_cons, List.sum_cons]
        congr 1
        · omega
        · omega
      · rw [List.take_succ_cons, List.sum_cons]
        omega
      · rw [List.take_succ_cons, List.sum_cons, List.getD_cons_succ]
        omega

/-! ### Dates -/

/-- The date is in the calendar. -/
structure Date.Valid (d : Date) : Prop where
  one_le_month : 1 ≤ d.month
  month_le : d.month ≤ 12
  one_le_day : 1 ≤ d.day
  day_le : d.day ≤ monthLength (isLeap d.year) d.month

def Date.Before (d e : Date) : Prop :=
  d.year < e.year ∨ d.year = e.year ∧ (d.month < e.month ∨ d.month = e.month ∧ d.day < e.day)

def Date.next (d : Date) : Date :=
  if d.day < monthLength (isLeap d.year) d.month then { d with day := d.day + 1 }
  else if d.month < 12 then ⟨d.year, d.month + 1, 1⟩
  else ⟨d.year + 1, 1, 1⟩

section

variable {d e : Date}

theorem Date.toDay_eq (d : Date) :
    d.toDay = daysBeforeYear d.year + daysBeforeMonth (isLeap d.year) d.month + (d.day - 1) -
      epochDay := rfl

theorem Date.Valid.day_of_year_le (h : d.Valid) :
    daysBeforeMonth (isLeap d.year) d.month + d.day ≤ yearLength d.year := by
  have hlast := daysBeforeMonth_last d.year
  have hday := h.day_le
  by_cases hmonth : d.month = 12
  · rw [hmonth] at hday ⊢
    omega
  · have hle := daysBeforeMonth_add_le (isLeap d.year) h.one_le_month
      (show d.month < 12 by have := h.month_le; omega) (Nat.le_refl 12)
    omega

theorem Date.toDay_lt_of_before (hd : d.Valid) (he : e.Valid) (h : d.Before e) :
    d.toDay < e.toDay := by
  have hfirst := he.one_le_day
  rw [toDay_eq, toDay_eq]
  rcases h with hyear | ⟨hyear, hmonth | ⟨hmonth, hday⟩⟩
  · have hyears := daysBeforeYear_add_le hyear
    have hin := hd.day_of_year_le
    omega
  · have hmonths := daysBeforeMonth_add_le (isLeap d.year) hd.one_le_month hmonth he.month_le
    have hin := hd.day_le
    rw [← hyear]
    omega
  · rw [← hyear, ← hmonth]
    omega

theorem Date.before_or_eq_or_before (d e : Date) : d.Before e ∨ d = e ∨ e.Before d := by
  have heq : d.year = e.year ∧ d.month = e.month ∧ d.day = e.day → d = e := by
    rintro ⟨hyear, hmonth, hday⟩
    cases d
    cases e
    rw [mk.injEq]
    exact ⟨hyear, hmonth, hday⟩
  unfold Before
  by_cases hsame : d.year = e.year ∧ d.month = e.month ∧ d.day = e.day
  · exact .inr (.inl (heq hsame))
  · omega

/-- **The earlier of two dates lies on the earlier day.** -/
theorem Date.toDay_lt_iff (hd : d.Valid) (he : e.Valid) : d.toDay < e.toDay ↔ d.Before e := by
  refine ⟨fun h => ?_, toDay_lt_of_before hd he⟩
  rcases d.before_or_eq_or_before e with hbefore | rfl | hbefore
  · exact hbefore
  · omega
  · have hlt := toDay_lt_of_before he hd hbefore
    omega

theorem Date.toDay_inj (hd : d.Valid) (he : e.Valid) : d.toDay = e.toDay ↔ d = e := by
  refine ⟨fun h => ?_, fun h => by rw [h]⟩
  rcases d.before_or_eq_or_before e with hbefore | hsame | hbefore
  · have hlt := toDay_lt_of_before hd he hbefore
    omega
  · exact hsame
  · have hlt := toDay_lt_of_before he hd hbefore
    omega

/-! ### The next day -/

theorem Date.Valid.next (h : d.Valid) : d.next.Valid := by
  have hpositive : ∀ leap : Bool, ∀ month < 13, 1 ≤ month → 1 ≤ monthLength leap month := by decide
  have hmonth := h.one_le_month
  unfold Date.next
  by_cases hday : d.day < monthLength (isLeap d.year) d.month
  · rw [if_pos hday]
    exact ⟨hmonth, h.month_le, Nat.le_add_left 1 d.day, hday⟩
  · rw [if_neg hday]
    by_cases hyear : d.month < 12
    · rw [if_pos hyear]
      exact ⟨Nat.le_add_left 1 d.month, hyear, Nat.le_refl 1,
        hpositive _ _ (Nat.succ_lt_succ hyear) (Nat.le_add_left 1 d.month)⟩
    · rw [if_neg hyear]
      exact ⟨Nat.le_refl 1, Nat.le_add_left 1 11, Nat.le_refl 1,
        hpositive _ 1 (by decide) (Nat.le_refl 1)⟩

/-- From one date to the next is one day. -/
theorem Date.toDay_next (h : d.Valid) : d.next.toDay = d.toDay + 1 := by
  have hle := h.day_le
  rw [toDay_eq d]
  unfold next
  by_cases hday : d.day < monthLength (isLeap d.year) d.month
  · rw [if_pos hday, toDay_eq]
    simp only
    omega
  · rw [if_neg hday]
    by_cases hmonth : d.month < 12
    · rw [if_pos hmonth, toDay_eq]
      simp only
      rw [daysBeforeMonth_succ _ h.one_le_month hmonth]
      omega
    · have htwelve : d.month = 12 := by
        have := h.month_le
        omega
      have hlast := daysBeforeMonth_last d.year
      have hyear := daysBeforeYear_succ d.year
      have hjanuary : daysBeforeMonth (isLeap (d.year + 1)) 1 = 0 := rfl
      rw [if_neg hmonth, toDay_eq]
      simp only
      rw [htwelve] at hday hle ⊢
      omega

end

/-! ### The date of a day -/

/-- The day `r` of a cycle lies in a century `c`, in a group `g` of four years and in a year `s` of
it. Only a fourth year has a day 365, and only in the fourth century the last group has a fourth
year with such a day. -/
theorem parts_of_cycle {r c d g e s : Nat} (hr : r < 146097) (hc : c = min 3 (r / 36524))
    (hd : d = r - 36524 * c) (hg : g = d / 1461) (he : e = d % 1461) (hs : s = min 3 (e / 365)) :
    (c ≤ 3 ∧ g ≤ 24 ∧ s ≤ 3) ∧ 36524 * c + 1461 * g + 365 * s + (e - 365 * s) = r ∧
      (e - 365 * s < 365 ∨ e - 365 * s = 365 ∧ s = 3 ∧ (g = 24 → c = 3)) := by
  omega

section

variable {q : Int} {c g s : Nat}

/-- The cycles, centuries, groups and single years before a year add up to the days before it. -/
theorem daysBeforeYear_of_parts (q : Int) (h : c ≤ 3 ∧ g ≤ 24 ∧ s ≤ 3) :
    daysBeforeYear (400 * q + (100 * c + 4 * g + s + 1 : Nat)) =
      146097 * q + (36524 * c + 1461 * g + 365 * s : Nat) := by
  unfold daysBeforeYear
  omega

theorem lt_yearLength_of_parts (q : Int) {inYear : Nat} (h : c ≤ 3 ∧ g ≤ 24 ∧ s ≤ 3)
    (hin : inYear < 365 ∨ inYear = 365 ∧ s = 3 ∧ (g = 24 → c = 3)) :
    inYear < yearLength (400 * q + (100 * c + 4 * g + s + 1 : Nat)) := by
  have hlength := yearLength_eq (400 * q + (100 * c + 4 * g + s + 1 : Nat))
  omega

end

/-- A day is found in its year. -/
theorem exists_year_ofDay (n : Int) :
    ∃ (year : Int) (inYear : Nat), (inYear : Int) = n + epochDay - daysBeforeYear year ∧
      inYear < yearLength year ∧
      Date.ofDay n = ⟨year, (monthAndDay (monthLengths (isLeap year)) 1 inYear).1,
        (monthAndDay (monthLengths (isLeap year)) 1 inYear).2⟩ := by
  have hcycle : ((n + epochDay) % 146097).toNat < 146097 := by omega
  obtain ⟨hparts, hsum, hin⟩ := parts_of_cycle hcycle rfl rfl rfl rfl rfl
  refine ⟨_, _, ?_, lt_yearLength_of_parts ((n + epochDay) / 146097) hparts hin, rfl⟩
  rw [daysBeforeYear_of_parts _ hparts]
  omega

theorem Date.ofDay_spec (n : Int) : (Date.ofDay n).Valid ∧ (Date.ofDay n).toDay = n := by
  obtain ⟨year, inYear, hdays, hyear, hdate⟩ := exists_year_ofDay n
  rw [← sum_monthLengths] at hyear
  obtain ⟨i, hi, hmonth, hle, hlt⟩ := monthAndDay_eq _ 1 inYear hyear
  have htwelve : (monthLengths (isLeap year)).length = 12 := rfl
  have hindex : 1 + i - 1 = i := by omega
  rw [hmonth] at hdate
  rw [hdate]
  constructor
  · refine ⟨Nat.le_add_right 1 i, by simp only; omega, Nat.le_add_left 1 _, ?_⟩
    simp only [monthLength, hindex]
    omega
  · rw [toDay_eq]
    simp only [daysBeforeMonth, hindex]
    omega

theorem Date.valid_ofDay (n : Int) : (Date.ofDay n).Valid :=
  (ofDay_spec n).1

/-- **The date of a day is that many days from 1970-01-01.** -/
theorem Date.toDay_ofDay (n : Int) : (Date.ofDay n).toDay = n :=
  (ofDay_spec n).2

theorem Date.ofDay_succ (n : Int) : Date.ofDay (n + 1) = (Date.ofDay n).next := by
  rw [← toDay_inj (valid_ofDay _) (valid_ofDay n).next, toDay_next (valid_ofDay n), toDay_ofDay,
    toDay_ofDay]

/-- The day before the first day of the year 0, which is a leap year. -/
example : Date.ofDay (-719529) = ⟨-1, 12, 31⟩ ∧ Date.ofDay (-719528 + 59) = ⟨0, 2, 29⟩ := by decide

end UserAccounts.Time
