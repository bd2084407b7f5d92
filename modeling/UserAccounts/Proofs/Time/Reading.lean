/-
# Reading the text of an instant

The text of an instant, in whole seconds, is a year, which may have a sign and more than
four digits, and behind it sixteen characters: month, day, hour, minute and second, each
of two digits behind a mark of its own, and a `Z`. `Reading.ofText?` reads it in this
way, from the form alone. What it reads lies in the calendar and is the instant, cut down to
seconds (`Instant.toldBy_toText`). A leap second is told as the second that comes next,
and that is the sixtieth of a minute behind its last.

Readings are ordered as their years, months, days, hours, minutes and seconds are, the
first that differ. That is the order of the seconds from 1970 on, with a sixtieth
second before the minute that begins at the same time (`Reading.before_iff`), and, as long
as years have four digits, the order of the texts (`Reading.chars_lt_iff`).

Key definitions: `Reading`, `Reading.Valid`, `Reading.unixSeconds`, `Reading.ofText?`,
`Reading.Before`, `Instant.toldSeconds`, `Instant.isSixtieth`, `Instant.reading`,
`Instant.ToldBy`.
Key theorems: `Reading.ofChars?_chars`, `Reading.before_iff`, `Reading.chars_lt_iff`,
`Instant.toldBy_toText`, `Instant.toText_inj`, `Instant.toText_lt_iff`.
-/
import Mathlib.Data.String.Basic
import UserAccounts.Proofs.Text.Digits
import UserAccounts.Proofs.Time.Calendar
import UserAccounts.Time.Instant

namespace UserAccounts.Time

open Text (magnitude? padded)

structure Reading where
  date : Date
  hour : Nat
  minute : Nat
  second : Nat
deriving DecidableEq, Repr

/-- There is such a time: its date is in the calendar, and it is on the clock, where a minute may
have a sixtieth second. -/
structure Reading.Valid (r : Reading) : Prop where
  date : r.date.Valid
  hour_lt : r.hour < 24
  minute_lt : r.minute < 60
  second_le : r.second ≤ 60

/-- The seconds from 1970-01-01T00:00:00Z on. A sixtieth second counts as the first of the next
minute. -/
def Reading.unixSeconds (r : Reading) : Int :=
  86400 * r.date.toDay + (3600 * r.hour + 60 * r.minute + r.second : Nat)

def Reading.Before (r s : Reading) : Prop :=
  r.date.Before s.date ∨ r.date = s.date ∧ (r.hour < s.hour ∨ r.hour = s.hour ∧
    (r.minute < s.minute ∨ r.minute = s.minute ∧ r.second < s.second))

/-! ### The form of the text -/

/-- A year, behind a sign if there is one. -/
def yearOf? : List Char → Option Int
  | '-' :: digits => (magnitude? digits).map fun n : Nat => -(n : Int)
  | '+' :: digits => (magnitude? digits).map fun n : Nat => (n : Int)
  | digits => (magnitude? digits).map fun n : Nat => (n : Int)

/-- A number of two digits behind a mark, and what stands behind it. -/
def pairOf? (mark : Char) : List Char → Option (Nat × List Char)
  | c :: high :: low :: rest =>
    if c = mark then (magnitude? [high, low]).map fun n => (n, rest) else none
  | _ => none

/-- Reads the characters of an instant: a year, and sixteen characters behind it. -/
def Reading.ofChars? (chars : List Char) : Option Reading := do
  let front := chars.length - 16
  let year ← yearOf? (chars.take front)
  let (month, rest) ← pairOf? '-' (chars.drop front)
  let (day, rest) ← pairOf? '-' rest
  let (hour, rest) ← pairOf? 'T' rest
  let (minute, rest) ← pairOf? ':' rest
  let (second, rest) ← pairOf? ':' rest
  if rest = ['Z'] then some ⟨⟨year, month, day⟩, hour, minute, second⟩ else none

def Reading.ofText? (text : String) : Option Reading :=
  Reading.ofChars? text.toList

/-- The sixteen characters behind the year. -/
def Reading.behindYear (r : Reading) : List Char :=
  '-' :: (padded 2 r.date.month ++ '-' :: (padded 2 r.date.day ++ 'T' :: (padded 2 r.hour ++
    ':' :: (padded 2 r.minute ++ ':' :: (padded 2 r.second ++ ['Z'])))))

def Reading.chars (r : Reading) : List Char :=
  yearText r.date.year ++ r.behindYear

theorem yearOf?_of_digits {digits : List Char} (h : ∀ c ∈ digits, c.isDigit = true) :
    yearOf? digits = (magnitude? digits).map fun n : Nat => (n : Int) := by
  unfold yearOf?
  split
  · exact absurd (h '-' List.mem_cons_self) (by decide)
  · exact absurd (h '+' List.mem_cons_self) (by decide)
  · rfl

/-- A year is read as it is written, with a sign or without. -/
theorem yearOf?_yearText (year : Int) : yearOf? (yearText year) = some year := by
  unfold yearText
  by_cases hfour : 0 ≤ year ∧ year ≤ 9999
  · have hyear : (year.natAbs : Int) = year := by omega
    rw [if_pos hfour, yearOf?_of_digits fun _ => Text.isDigit_of_mem_padded,
      Text.magnitude?_padded, Option.map_some, hyear]
  · rw [if_neg hfour]
    by_cases hnegative : year < 0
    · have hyear : -(year.natAbs : Int) = year := by omega
      rw [if_pos hnegative, yearOf?, Text.magnitude?_padded, Option.map_some, hyear]
    · have hyear : (year.natAbs : Int) = year := by omega
      rw [if_neg hnegative, yearOf?, Text.magnitude?_padded, Option.map_some, hyear]

theorem pairOf?_padded (mark : Char) {n : Nat} (h : n < 100) (rest : List Char) :
    pairOf? mark (mark :: (padded 2 n ++ rest)) = some (n, rest) := by
  have hlength : (padded 2 n).length = 2 := Text.length_padded (by decide) h
  have hread := Text.magnitude?_padded 2 n
  obtain ⟨high, low, hwritten⟩ := List.length_eq_two.mp hlength
  rw [hwritten] at hread ⊢
  rw [List.cons_append, List.cons_append, List.nil_append, pairOf?, if_pos rfl, hread]
  rfl

section

variable {r s : Reading}

/-- All numbers of a time but the year have two digits. -/
theorem Reading.Valid.two_digits (h : r.Valid) :
    r.date.month < 100 ∧ r.date.day < 100 ∧ r.hour < 100 ∧ r.minute < 100 ∧ r.second < 100 := by
  have hmonth := h.date.month_le
  have hday := h.date.day_le
  have hlength := monthLength_le (isLeap r.date.year) r.date.month
  have hhour := h.hour_lt
  have hminute := h.minute_lt
  have hsecond := h.second_le
  omega

theorem Reading.Valid.length_behindYear (h : r.Valid) : r.behindYear.length = 16 := by
  have hlength : ∀ {n : Nat}, n < 100 → (padded 2 n).length = 2 :=
    fun hn => Text.length_padded (by decide) hn
  obtain ⟨hmonth, hday, hhour, hminute, hsecond⟩ := h.two_digits
  unfold behindYear
  simp only [List.length_cons, List.length_append, hlength hmonth, hlength hday, hlength hhour,
    hlength hminute, hlength hsecond, List.length_nil]

/-- **A time is read as it is written.** -/
theorem Reading.ofChars?_chars (h : r.Valid) : Reading.ofChars? r.chars = some r := by
  have hfront : r.chars.length - 16 = (yearText r.date.year).length := by
    unfold chars
    rw [List.length_append, h.length_behindYear, Nat.add_sub_cancel]
  have hyear : r.chars.take (r.chars.length - 16) = yearText r.date.year := by
    rw [hfront]
    exact List.take_left
  have hbehind : r.chars.drop (r.chars.length - 16) = r.behindYear := by
    rw [hfront]
    exact List.drop_left
  obtain ⟨hmonth, hday, hhour, hminute, hsecond⟩ := h.two_digits
  unfold ofChars?
  simp only [hyear, hbehind, yearOf?_yearText, behindYear, pairOf?_padded, hmonth, hday, hhour,
    hminute, hsecond, Option.bind_eq_bind, Option.bind_some, if_true]

example : Reading.ofText? "-0001-12-31T23:59:60Z" = some ⟨⟨-1, 12, 31⟩, 23, 59, 60⟩ := by decide

/-! ### The order of times -/

/-- The order of times is the order of their seconds; a sixtieth second comes before the minute that
begins at the same time. -/
theorem Reading.before_iff (hr : r.Valid) (hs : s.Valid) :
    r.Before s ↔ r.unixSeconds < s.unixSeconds ∨
      r.unixSeconds = s.unixSeconds ∧ r.second = 60 ∧ s.second ≠ 60 := by
  have hhour := hr.hour_lt
  have hminute := hr.minute_lt
  have hsecond := hr.second_le
  have hhour' := hs.hour_lt
  have hminute' := hs.minute_lt
  have hsecond' := hs.second_le
  unfold Before unixSeconds
  rw [← Date.toDay_lt_iff hr.date hs.date, ← Date.toDay_inj hr.date hs.date]
  omega

/-- A time is known by its seconds, and by whether it is a sixtieth second. -/
theorem Reading.eq_of_unixSeconds (hr : r.Valid) (hs : s.Valid)
    (h : r.unixSeconds = s.unixSeconds) (hsixtieth : r.second = 60 ↔ s.second = 60) : r = s := by
  have hhour := hr.hour_lt
  have hminute := hr.minute_lt
  have hsecond := hr.second_le
  have hhour' := hs.hour_lt
  have hminute' := hs.minute_lt
  have hsecond' := hs.second_le
  have hparts : r.date.toDay = s.date.toDay ∧ r.hour = s.hour ∧ r.minute = s.minute ∧
      r.second = s.second := by
    unfold unixSeconds at h
    omega
  rw [Date.toDay_inj hr.date hs.date] at hparts
  obtain ⟨date, hour, minute, second⟩ := r
  obtain ⟨rfl, rfl, rfl, rfl⟩ := hparts
  rfl

theorem yearText_of_four {year : Int} (h : 0 ≤ year ∧ year ≤ 9999) :
    yearText year = padded 4 year.natAbs :=
  if_pos h

theorem cons_padded_append_lt_iff (mark : Char) {m n : Nat} (hm : m < 100) (hn : n < 100)
    (more others : List Char) :
    mark :: (padded 2 m ++ more) < mark :: (padded 2 n ++ others) ↔
      m < n ∨ m = n ∧ more < others := by
  rw [List.cons_lt_cons_self, Text.padded_append_lt_iff (by decide) hm hn]

/-- **The order of texts.** With years of four digits, the characters are in the order of the
times. -/
theorem Reading.chars_lt_iff (hr : r.Valid) (hs : s.Valid)
    (hyear : 0 ≤ r.date.year ∧ r.date.year ≤ 9999) (hyear' : 0 ≤ s.date.year ∧ s.date.year ≤ 9999) :
    r.chars < s.chars ↔ r.Before s := by
  have hend : ¬ ['Z'] < ['Z'] := List.lt_irrefl _
  have hdate : r.date = s.date ↔
      r.date.year = s.date.year ∧ r.date.month = s.date.month ∧ r.date.day = s.date.day := by
    rw [← Date.mk.injEq]
  have hnat : r.date.year.natAbs < s.date.year.natAbs ↔ r.date.year < s.date.year := by omega
  have hnat' : r.date.year.natAbs = s.date.year.natAbs ↔ r.date.year = s.date.year := by omega
  obtain ⟨hmonth, hday, hhour, hminute, hsecond⟩ := hr.two_digits
  obtain ⟨hmonth', hday', hhour', hminute', hsecond'⟩ := hs.two_digits
  unfold chars behindYear
  rw [yearText_of_four hyear, yearText_of_four hyear',
    Text.padded_append_lt_iff (by decide) (by omega) (by omega), hnat, hnat',
    cons_padded_append_lt_iff _ hmonth hmonth', cons_padded_append_lt_iff _ hday hday',
    cons_padded_append_lt_iff _ hhour hhour', cons_padded_append_lt_iff _ hminute hminute',
    cons_padded_append_lt_iff _ hsecond hsecond']
  unfold Before Date.Before
  simp only [hdate, hend, and_false, or_false, and_assoc, and_or_left, or_assoc]

end

/-! ### Instants -/

/-- The time of an instant, cut down to whole seconds. -/
def Instant.reading (t : Instant) : Reading where
  date := Date.ofDay t.day
  hour := t.secondOfDay / 3600
  minute := t.secondOfDay / 60 % 60
  second := t.secondOfMinute

/-- The seconds that are told: a leap second is told as the second that comes next. -/
def Instant.toldSeconds (t : Instant) : Int :=
  t.seconds + if t.isLeapSecond then 1 else 0

/-- Whether the instant lies in a leap second behind the last second of a minute. -/
def Instant.isSixtieth (t : Instant) : Bool :=
  t.isLeapSecond && t.seconds % 60 == 59

section

variable (t u : Instant)

theorem Instant.textChars_seconds : t.textChars .seconds = t.reading.chars := by
  unfold textChars Reading.chars Reading.behindYear Date.toText
  simp only [List.append_assoc, List.cons_append, List.append_nil]
  rfl

theorem Instant.secondOfDay_lt : t.secondOfDay < 86400 := by
  unfold secondOfDay
  omega

theorem Instant.secondOfMinute_eq :
    t.isLeapSecond = true ∧ t.secondOfMinute = t.secondOfDay % 60 + 1 ∨
      t.isLeapSecond = false ∧ t.secondOfMinute = t.secondOfDay % 60 := by
  unfold secondOfMinute
  cases t.isLeapSecond with
  | true => exact .inl ⟨rfl, rfl⟩
  | false => exact .inr ⟨rfl, rfl⟩

theorem Instant.valid_reading : t.reading.Valid := by
  have hday := t.secondOfDay_lt
  have hsecond := t.secondOfMinute_eq
  refine ⟨Date.valid_ofDay _, ?_, ?_, ?_⟩
  · show t.secondOfDay / 3600 < 24
    omega
  · show t.secondOfDay / 60 % 60 < 60
    omega
  · show t.secondOfMinute ≤ 60
    omega

/-- **The time of an instant is the instant's**, and for a leap second the one that comes next. -/
theorem Instant.unixSeconds_reading : t.reading.unixSeconds = t.toldSeconds := by
  have hsplit : 86400 * t.day + t.secondOfDay = t.seconds := by
    unfold day secondOfDay
    omega
  have hclock : 3600 * (t.secondOfDay / 3600) + 60 * (t.secondOfDay / 60 % 60) +
      t.secondOfMinute = t.secondOfDay + if t.isLeapSecond then 1 else 0 := by
    unfold secondOfMinute
    omega
  calc t.reading.unixSeconds
      = 86400 * (Date.ofDay t.day).toDay + (3600 * (t.secondOfDay / 3600) +
          60 * (t.secondOfDay / 60 % 60) + t.secondOfMinute : Nat) := rfl
    _ = 86400 * t.day + (t.secondOfDay + if t.isLeapSecond then 1 else 0 : Nat) := by
        rw [Date.toDay_ofDay, hclock]
    _ = t.toldSeconds := by
        unfold toldSeconds
        split <;> omega

/-- A leap second behind the last second of a minute is its sixtieth, and no other second is. -/
theorem Instant.second_reading : t.reading.second = 60 ↔ t.isSixtieth = true := by
  have hlast : t.secondOfDay % 60 = 59 ↔ t.seconds % 60 = 59 := by
    unfold secondOfDay
    omega
  show t.secondOfMinute = 60 ↔ _
  unfold isSixtieth
  rw [Bool.and_eq_true, beq_iff_eq, ← hlast]
  rcases t.secondOfMinute_eq with ⟨hleap, hsecond⟩ | ⟨hleap, hsecond⟩
  · rw [hleap, hsecond]
    exact ⟨fun h => ⟨rfl, by omega⟩, fun h => by omega⟩
  · rw [hleap, hsecond]
    exact ⟨fun h => by omega, fun h => absurd h.1 (by decide)⟩

theorem Instant.ofText?_toText : Reading.ofText? (t.toText .seconds) = some t.reading := by
  unfold Reading.ofText? toText
  rw [String.toList_ofList, t.textChars_seconds]
  exact Reading.ofChars?_chars t.valid_reading

/-- The text tells when the instant is, to the second: read by its form alone, it is a time of the
calendar with the seconds of the instant, or for a leap second one more, and it has a sixtieth
second just for a leap second behind the last second of a minute. -/
def Instant.ToldBy (t : Instant) (text : String) : Prop :=
  ∃ r, Reading.ofText? text = some r ∧ r.Valid ∧
    r.unixSeconds = t.seconds + (if t.isLeapSecond then 1 else 0) ∧
    (r.second = 60 ↔ t.isLeapSecond = true ∧ t.seconds % 60 = 59)

/-- **Every instant is told by its text**, cut down to whole seconds. -/
theorem Instant.toldBy_toText : t.ToldBy (t.toText .seconds) := by
  have hsixtieth := t.second_reading
  rw [isSixtieth, Bool.and_eq_true, beq_iff_eq] at hsixtieth
  exact ⟨t.reading, t.ofText?_toText, t.valid_reading, t.unixSeconds_reading, hsixtieth⟩

theorem Instant.before_reading_iff :
    t.reading.Before u.reading ↔ t.toldSeconds < u.toldSeconds ∨
      t.toldSeconds = u.toldSeconds ∧ t.isSixtieth = true ∧ u.isSixtieth = false := by
  rw [Reading.before_iff t.valid_reading u.valid_reading, unixSeconds_reading,
    unixSeconds_reading, t.second_reading, Ne, u.second_reading, Bool.not_eq_true]

/-- Instants have one time if the same second is told, and is a sixtieth for both or for neither. -/
theorem Instant.reading_inj :
    t.reading = u.reading ↔ t.toldSeconds = u.toldSeconds ∧ t.isSixtieth = u.isSixtieth := by
  constructor
  · intro h
    refine ⟨?_, ?_⟩
    · rw [← t.unixSeconds_reading, h, u.unixSeconds_reading]
    · rw [Bool.eq_iff_iff, ← t.second_reading, ← u.second_reading, h]
  · rintro ⟨hseconds, hsixtieth⟩
    apply Reading.eq_of_unixSeconds t.valid_reading u.valid_reading
    · rw [unixSeconds_reading, unixSeconds_reading, hseconds]
    · rw [t.second_reading, u.second_reading, hsixtieth]

/-- **Instants have one text if one second is told of both**, and is a sixtieth for both or for
neither. -/
theorem Instant.toText_inj :
    t.toText .seconds = u.toText .seconds ↔
      t.toldSeconds = u.toldSeconds ∧ t.isSixtieth = u.isSixtieth := by
  rw [← reading_inj]
  constructor
  · intro h
    have hread := t.ofText?_toText
    rw [h, u.ofText?_toText] at hread
    exact (Option.some.inj hread).symm
  · intro h
    unfold toText
    rw [textChars_seconds, textChars_seconds, h]

variable {t u}

/-- **With years of four digits, texts are in the order of what is told.** -/
theorem Instant.toText_lt_iff (ht : 0 ≤ t.reading.date.year ∧ t.reading.date.year ≤ 9999)
    (hu : 0 ≤ u.reading.date.year ∧ u.reading.date.year ≤ 9999) :
    t.toText .seconds < u.toText .seconds ↔ t.toldSeconds < u.toldSeconds ∨
      t.toldSeconds = u.toldSeconds ∧ t.isSixtieth = true ∧ u.isSixtieth = false := by
  have hchars : t.toText .seconds < u.toText .seconds ↔ t.reading.chars < u.reading.chars := by
    rw [String.lt_iff_toList_lt, toText, toText, String.toList_ofList, String.toList_ofList,
      textChars_seconds, textChars_seconds]
  rw [hchars, Reading.chars_lt_iff t.valid_reading u.valid_reading ht hu, before_reading_iff]

end

end UserAccounts.Time
