/-
# Moving an instant with words of 64 bits

`Instant.addMinutes?` is stated with numbers of any size. A machine has 64 bits, and
goes from minutes to an instant in four steps, each with a limit of its own: the
minutes times sixty have to fit into a word (`checkedProduct`), as seconds they have
to be a `Span`, which is as long as a number of milliseconds in a word can be, the
seconds of the instant and of the span are added in a word, and the sum has to lie in
the calendar (`Instant.plus?`).

The first two limits are wider than the calendar, so what they turn away has no
instant anyhow, and behind them no sum leaves the word: the steps come to exactly
what `Instant.addMinutes?` does (`bind_plus?`).

Key definitions: `checkedProduct`, `Span`, `Span.ofMinutes?`, `Instant.plus?`.
Key theorems: `Span.ofMinutes?_eq_some_iff`, `Instant.toInt_sum`,
`Instant.isLeapSecond_of_addMinutes?`, `Instant.bind_plus?`.
-/
import UserAccounts.Time.Instant

namespace UserAccounts.Time

/-- The product of two words, if it fits into a word. -/
def checkedProduct (a b : Int64) : Option Int64 :=
  if Int64.minValue.toInt ≤ a.toInt * b.toInt ∧ a.toInt * b.toInt ≤ Int64.maxValue.toInt then
    some (a * b)
  else none

/-- The seconds of the longest span: a thousandth of the greatest number in a word. -/
def mostSpan : Int := 9223372036854775

/-- A length of time in whole seconds, negative if it leads back. -/
structure Span where
  seconds : Int64
  least_le : -mostSpan ≤ seconds.toInt
  le_most : seconds.toInt ≤ mostSpan
deriving DecidableEq, Repr

def Span.ofSeconds? (seconds : Int64) : Option Span :=
  if h : -mostSpan ≤ seconds.toInt ∧ seconds.toInt ≤ mostSpan then some ⟨seconds, h.1, h.2⟩
  else none

def Span.ofMinutes? (minutes : Int64) : Option Span :=
  (checkedProduct minutes 60).bind Span.ofSeconds?

/-- The instant behind a span that begins at another, with the seconds added in words; a leap second
is left for the second before it, or the one after it when going back. -/
def Instant.plus? (t : Instant) (span : Span) : Option Instant :=
  let start := Int64.ofInt t.seconds
  if t.isLeapSecond then
    if 0 < span.seconds then Instant.of? (start + span.seconds).toInt (t.nanos - 1000000000)
    else if span.seconds < 0 then
      Instant.of? (start + 1 + span.seconds).toInt (t.nanos - 1000000000)
    else some t
  else Instant.of? (start + span.seconds).toInt t.nanos

/-! ### Spans -/

/-- Sixty times a word fits into a word, or has a product that is too long for a span. -/
theorem checkedProduct_sixty (minutes : Int64) :
    (∃ product, checkedProduct minutes 60 = some product ∧
      product.toInt = 60 * minutes.toInt) ∨
    checkedProduct minutes 60 = none ∧
      (60 * minutes.toInt < -mostSpan ∨ mostSpan < 60 * minutes.toInt) := by
  have hsixty : (60 : Int64).toInt = 60 := by decide
  have hlow : Int64.minValue.toInt = -9223372036854775808 := by decide
  have hhigh : Int64.maxValue.toInt = 9223372036854775807 := by decide
  unfold checkedProduct mostSpan
  rw [hsixty, hlow, hhigh]
  by_cases hfits : -9223372036854775808 ≤ minutes.toInt * 60 ∧
      minutes.toInt * 60 ≤ 9223372036854775807
  · left
    refine ⟨minutes * 60, if_pos hfits, ?_⟩
    rw [Int64.toInt_mul, hsixty, Int.bmod_eq_of_le (by omega) (by omega)]
    exact Int.mul_comm _ _
  · right
    exact ⟨if_neg hfits, by omega⟩

/-- There is a span of some minutes unless their seconds are too many for a span; the word is wide
enough for them. -/
theorem Span.ofMinutes?_eq_some_iff {minutes : Int64} {span : Span} :
    Span.ofMinutes? minutes = some span ↔ span.seconds.toInt = 60 * minutes.toInt := by
  have hleast := span.least_le
  have hmost := span.le_most
  unfold Span.ofMinutes?
  rcases checkedProduct_sixty minutes with ⟨product, hproduct, hexact⟩ | ⟨hnone, hfar⟩
  · rw [hproduct, Option.bind_some, ← hexact]
    unfold Span.ofSeconds?
    constructor
    · intro h
      split at h
      · rw [← Option.some.inj h]
      · cases h
    · intro h
      obtain ⟨seconds, hspan, hspan'⟩ := span
      obtain rfl := Int64.toInt_inj.mp h
      exact dif_pos ⟨hspan, hspan'⟩
  · rw [hnone, Option.bind_none]
    constructor
    · intro h
      cases h
    · intro h
      omega

theorem Span.ofMinutes?_eq_none_iff {minutes : Int64} :
    Span.ofMinutes? minutes = none ↔
      60 * minutes.toInt < -mostSpan ∨ mostSpan < 60 * minutes.toInt := by
  by_cases hnear : -mostSpan ≤ 60 * minutes.toInt ∧ 60 * minutes.toInt ≤ mostSpan
  · have hword : (Int64.ofInt (60 * minutes.toInt)).toInt = 60 * minutes.toInt := by
      unfold mostSpan at hnear
      exact Int64.toInt_ofInt_of_le (by omega) (by omega)
    have hsome : Span.ofMinutes? minutes =
        some ⟨.ofInt (60 * minutes.toInt), by omega, by omega⟩ :=
      Span.ofMinutes?_eq_some_iff.mpr hword
    rw [hsome]
    constructor
    · intro h
      cases h
    · intro hfar
      omega
  · refine ⟨fun _ => by omega, fun _ => ?_⟩
    cases hspan : Span.ofMinutes? minutes with
    | none => rfl
    | some span =>
      have hexact := Span.ofMinutes?_eq_some_iff.mp hspan
      have hleast := span.least_le
      have hmost := span.le_most
      omega

example : Span.ofMinutes? Int64.maxValue = none := by decide

/-! ### Sums -/

theorem Span.seconds_bounds (span : Span) :
    -9223372036854775 ≤ span.seconds.toInt ∧ span.seconds.toInt ≤ 9223372036854775 :=
  ⟨span.least_le, span.le_most⟩

theorem Instant.seconds_bounds (t : Instant) :
    -8334601228800 ≤ t.seconds ∧ t.seconds ≤ 8210266876799 :=
  ⟨t.firstSecond_le, t.le_lastSecond⟩

theorem Instant.toInt_ofInt_seconds (t : Instant) :
    (Int64.ofInt t.seconds).toInt = t.seconds := by
  have hbounds := t.seconds_bounds
  exact Int64.toInt_ofInt_of_le (by omega) (by omega)

section

variable (t : Instant) (span : Span)

/-- The sum of an instant's seconds and a span's fits into a word. -/
theorem Instant.toInt_sum :
    (Int64.ofInt t.seconds + span.seconds).toInt = t.seconds + span.seconds.toInt := by
  have hinstant := t.seconds_bounds
  have hspan := span.seconds_bounds
  rw [Int64.toInt_add, t.toInt_ofInt_seconds]
  exact Int.bmod_eq_of_le (by omega) (by omega)

theorem Instant.toInt_sum_behind :
    (Int64.ofInt t.seconds + 1 + span.seconds).toInt = t.seconds + 1 + span.seconds.toInt := by
  have hone : (1 : Int64).toInt = 1 := by decide
  have hinstant := t.seconds_bounds
  have hspan := span.seconds_bounds
  have hnext : (Int64.ofInt t.seconds + 1).toInt = t.seconds + 1 := by
    rw [Int64.toInt_add, t.toInt_ofInt_seconds, hone]
    exact Int.bmod_eq_of_le (by omega) (by omega)
  rw [Int64.toInt_add, hnext]
  exact Int.bmod_eq_of_le (by omega) (by omega)

/-- The instant behind a span, with numbers of any size. -/
theorem Instant.plus?_eq :
    t.plus? span =
      if t.isLeapSecond then
        if 0 < span.seconds.toInt then
          Instant.of? (t.seconds + span.seconds.toInt) (t.nanos - 1000000000)
        else if span.seconds.toInt < 0 then
          Instant.of? (t.seconds + 1 + span.seconds.toInt) (t.nanos - 1000000000)
        else some t
      else Instant.of? (t.seconds + span.seconds.toInt) t.nanos := by
  have hpositive : 0 < span.seconds ↔ 0 < span.seconds.toInt := Int64.lt_iff_toInt_lt
  have hnegative : span.seconds < 0 ↔ span.seconds.toInt < 0 := Int64.lt_iff_toInt_lt
  unfold Instant.plus?
  simp only [toInt_sum, toInt_sum_behind, hpositive, hnegative]

end

/-! ### Minutes -/

theorem Instant.of?_eq_some_iff {seconds : Int} {nanos : Nat} {t : Instant} :
    Instant.of? seconds nanos = some t ↔ t.seconds = seconds ∧ t.nanos = nanos := by
  unfold Instant.of?
  constructor
  · intro h
    split at h
    · rw [← Option.some.inj h]
      exact ⟨rfl, rfl⟩
    · cases h
  · rintro ⟨rfl, rfl⟩
    exact dif_pos ⟨t.firstSecond_le, t.le_lastSecond, t.nanos_lt⟩

/-- Only no minutes at all lead from a leap second to one. -/
theorem Instant.isLeapSecond_of_addMinutes? (t : Instant) {minutes : Int} {u : Instant}
    (h : t.addMinutes? minutes = some u) :
    u.isLeapSecond = (decide (minutes = 0) && t.isLeapSecond) := by
  have hnanos := t.nanos_lt
  unfold addMinutes? at h
  cases hleap : t.isLeapSecond with
  | false =>
    rw [hleap, if_neg (by decide)] at h
    unfold isLeapSecond at hleap ⊢
    rw [(of?_eq_some_iff.mp h).2, hleap, Bool.and_false]
  | true =>
    rw [hleap, if_pos rfl] at h
    -- What a leap second leaves behind is less than a second.
    have hrest : ∀ seconds, Instant.of? seconds (t.nanos - 1000000000) = some u →
        u.isLeapSecond = false := by
      intro seconds hu
      unfold isLeapSecond
      rw [(of?_eq_some_iff.mp hu).2]
      exact decide_eq_false (by omega)
    by_cases hpositive : 0 < minutes
    · rw [if_pos hpositive] at h
      rw [hrest _ h, decide_eq_false (Int.ne_of_gt hpositive), Bool.false_and]
    · by_cases hnegative : minutes < 0
      · rw [if_neg hpositive, if_pos hnegative] at h
        rw [hrest _ h, decide_eq_false (Int.ne_of_lt hnegative), Bool.false_and]
      · have hzero : minutes = 0 := by omega
        rw [if_neg hpositive, if_neg hnegative] at h
        rw [← Option.some.inj h, hleap, decide_eq_true hzero, Bool.true_and]

theorem Instant.of?_eq_none {seconds : Int} (h : seconds < firstSecond ∨ lastSecond < seconds)
    (nanos : Nat) : Instant.of? seconds nanos = none := by
  unfold Instant.of?
  exact dif_neg fun hin => by omega

/-- Minutes that are too many for a span lead out of the calendar. -/
theorem Instant.addMinutes?_of_far (t : Instant) {minutes : Int}
    (h : 60 * minutes < -mostSpan ∨ mostSpan < 60 * minutes) : t.addMinutes? minutes = none := by
  have hbounds := t.seconds_bounds
  unfold mostSpan at h
  unfold Instant.addMinutes?
  split
  · by_cases hpositive : 0 < minutes
    · rw [if_pos hpositive]
      exact of?_eq_none (by unfold firstSecond lastSecond; omega) _
    · rw [if_neg hpositive, if_pos (by omega)]
      exact of?_eq_none (by unfold firstSecond lastSecond; omega) _
  · exact of?_eq_none (by unfold firstSecond lastSecond; omega) _

/-- **The steps come to the same.** In words of 64 bits an instant is moved by minutes as with
numbers of any size. -/
theorem Instant.bind_plus? (t : Instant) (minutes : Int64) :
    (Span.ofMinutes? minutes).bind t.plus? = t.addMinutes? minutes.toInt := by
  cases hspan : Span.ofMinutes? minutes with
  | none => exact (t.addMinutes?_of_far (Span.ofMinutes?_eq_none_iff.mp hspan)).symm
  | some span =>
    have hexact := Span.ofMinutes?_eq_some_iff.mp hspan
    have hpositive : 0 < 60 * minutes.toInt ↔ 0 < minutes.toInt := by omega
    have hnegative : 60 * minutes.toInt < 0 ↔ minutes.toInt < 0 := by omega
    rw [Option.bind_some, t.plus?_eq, hexact]
    simp only [hpositive, hnegative]
    rfl

end UserAccounts.Time
