/-
# For how long tokens are set to hold

The minutes are looked up as a text. Whatever text stands there, what comes of it is
told by the integer that it writes, if it writes one (`read_of_writes`,
`read_of_not_writes`): from 1 to 52560000 the settings are taken; above that they are
too large, and at zero and below not positive, as is a text that writes no integer.

But the text is read into 64 bits before anything is compared. An integer from
9223372036854775808 on is not read, so it is not told apart from a text that writes none:
it is refused as not being positive, and not as being too large
(`huge_minutes_not_positive`).

Key definitions: `SpellsMinutes`, `MinutesFault`, `TokenSettings.SetBy`,
`TokenSettings.FaultIn`.
Key theorems: `TokenSettings.read_of_writes`, `TokenSettings.setBy_or_fault`,
`minutes_told_apart`.
-/
import UserAccounts.Proofs.Settings.Lookup
import UserAccounts.Proofs.Text.Numeral

namespace UserAccounts

/-- The text spells minutes for which tokens may hold. -/
def SpellsMinutes (raw : String) (minutes : Int) : Prop :=
  Text.Writes raw.toList minutes ∧ 1 ≤ minutes ∧ minutes ≤ 52560000

/-- What is wrong with a text that spells no such minutes. -/
inductive MinutesFault (raw : String) : SettingsFault → Prop where
  | notPositive (h : ∀ n, Text.Writes raw.toList n → n ≤ 0 ∨ 9223372036854775808 ≤ n) :
      MinutesFault raw (.notPositive "AUTH_JWT_TTL_MINUTES" raw)
  | tooLarge {n : Int} (h : Text.Writes raw.toList n) (habove : 52560000 < n)
      (hword : n < 9223372036854775808) :
      MinutesFault raw (.tooLarge "AUTH_JWT_TTL_MINUTES" (toString n) 52560000)

/-- The settings are those that are set under the keys. -/
structure TokenSettings.SetBy (settings : TokenSettings) (lookup : Lookup) : Prop where
  secret : lookup.Holds "AUTH_JWT_SECRET" settings.secret
  minutes : lookup.Sets "AUTH_JWT_TTL_MINUTES" SpellsMinutes 60 settings.ttlMinutes

theorem spellsMinutes_or_fault (raw : String) :
    (∃ n, SpellsMinutes raw n) ∨ ∃ fault, MinutesFault raw fault := by
  by_cases hwrites : ∃ n, Text.Writes raw.toList n
  · obtain ⟨n, hn⟩ := hwrites
    by_cases hword : n ≤ 0 ∨ 9223372036854775808 ≤ n
    · exact .inr ⟨_, .notPositive fun m hm => by rwa [hm.unique hn]⟩
    · by_cases hlarge : 52560000 < n
      · exact .inr ⟨_, .tooLarge hn hlarge (by omega)⟩
      · exact .inl ⟨n, hn, by omega, by omega⟩
  · exact .inr ⟨_, .notPositive fun n hn => absurd ⟨n, hn⟩ hwrites⟩

namespace TokenSettings

variable {lookup : Lookup} {secret raw : String}

/-! ### Reading -/

theorem read_of_lacks (h : lookup.Lacks "AUTH_JWT_SECRET") :
    read lookup = .error (.missing "AUTH_JWT_SECRET") := by
  have hnone : lookup.value? secretKey = none := Lookup.value?_eq_none_iff.mpr h
  unfold read
  rw [hnone]
  rfl

theorem of?_of_pos (hsecret : lookup.Holds "AUTH_JWT_SECRET" secret) {n : Int} (hpos : 0 < n) :
    of? secret n =
      if (52560000 : Int) < n then
        .error (.tooLarge "AUTH_JWT_TTL_MINUTES" (toString n) 52560000)
      else .ok ⟨secret, n⟩ := by
  unfold of?
  rw [hsecret.allBlank, if_neg Bool.false_ne_true, if_neg (by omega)]
  rfl

theorem read_of_no_minutes (hsecret : lookup.Holds "AUTH_JWT_SECRET" secret)
    (h : lookup.Lacks "AUTH_JWT_TTL_MINUTES") : read lookup = .ok ⟨secret, 60⟩ := by
  have hsome : lookup.value? secretKey = some secret := Lookup.value?_eq_some_iff.mpr hsecret
  have hnone : lookup.value? minutesKey = none := Lookup.value?_eq_none_iff.mpr h
  have hof : of? secret 60 = .ok ⟨secret, 60⟩ := of?_of_pos hsecret (by decide)
  unfold read
  rw [hsome, hnone]
  exact hof

section

variable (hsecret : lookup.Holds "AUTH_JWT_SECRET" secret)
  (hraw : lookup.Holds "AUTH_JWT_TTL_MINUTES" raw)

include hsecret hraw

/-- What comes of a text, by what is read from it. -/
theorem read_of_held :
    read lookup =
      match Text.readInteger wordRange.1 wordRange.2 raw.toList with
      | .ok n =>
        if 0 < n then of? secret n else .error (.notPositive "AUTH_JWT_TTL_MINUTES" raw)
      | .error _ => .error (.notPositive "AUTH_JWT_TTL_MINUTES" raw) := by
  have hsome : lookup.value? secretKey = some secret := Lookup.value?_eq_some_iff.mpr hsecret
  have hheld : lookup.value? minutesKey = some raw := Lookup.value?_eq_some_iff.mpr hraw
  unfold read
  rw [hsome, hheld]
  simp only [bind, Except.bind]
  cases Text.readInteger wordRange.1 wordRange.2 raw.toList with
  | error fault => rfl
  | ok n =>
    by_cases hpos : 0 < n
    · simp only [if_pos hpos]
    · simp only [if_neg hpos]
      rfl

/-- What comes of a text that writes an integer, of any size. -/
theorem read_of_writes {n : Int} (hwrites : Text.Writes raw.toList n) :
    read lookup =
      if n ≤ 0 ∨ 9223372036854775808 ≤ n then
        .error (.notPositive "AUTH_JWT_TTL_MINUTES" raw)
      else if 52560000 < n then
        .error (.tooLarge "AUTH_JWT_TTL_MINUTES" (toString n) 52560000)
      else .ok ⟨secret, n⟩ := by
  have hlow : wordRange.1 = -9223372036854775808 := by decide
  have hhigh : wordRange.2 = 9223372036854775807 := by decide
  rw [read_of_held hsecret hraw,
    Text.readInteger_of_writes (by rw [hlow]; decide) (by rw [hhigh]; decide) hwrites, hlow, hhigh]
  by_cases hsmall : n < -9223372036854775808
  · rw [if_pos hsmall, if_pos (.inl (by omega))]
  · rw [if_neg hsmall]
    by_cases hlarge : 9223372036854775807 < n
    · rw [if_pos hlarge, if_pos (.inr (by omega))]
    · rw [if_neg hlarge]
      by_cases hpos : 0 < n
      · have hword : ¬ (n ≤ 0 ∨ 9223372036854775808 ≤ n) := by omega
        simp only [if_pos hpos]
        rw [of?_of_pos hsecret hpos, if_neg hword]
      · simp only [if_neg hpos]
        rw [if_pos (.inl (by omega))]

theorem read_of_not_writes (hnot : ¬ ∃ n, Text.Writes raw.toList n) :
    read lookup = .error (.notPositive "AUTH_JWT_TTL_MINUTES" raw) := by
  obtain ⟨fault, hfault⟩ := Text.readInteger_of_not_writes wordRange.1 wordRange.2 hnot
  rw [read_of_held hsecret hraw, hfault]

theorem read_of_spells {n : Int} (h : SpellsMinutes raw n) : read lookup = .ok ⟨secret, n⟩ := by
  obtain ⟨hwrites, hlow, hhigh⟩ := h
  rw [read_of_writes hsecret hraw hwrites, if_neg (by omega), if_neg (by omega)]

theorem read_of_minutesFault {fault : SettingsFault} (h : MinutesFault raw fault) :
    read lookup = .error fault := by
  cases h with
  | notPositive h =>
    by_cases hsome : ∃ n, Text.Writes raw.toList n
    · obtain ⟨n, hn⟩ := hsome
      rw [read_of_writes hsecret hraw hn, if_pos (h n hn)]
    · exact read_of_not_writes hsecret hraw hsome
  | tooLarge hwrites habove hword =>
    rw [read_of_writes hsecret hraw hwrites, if_neg (by omega), if_pos habove]

end

/-! ### What is read -/

variable {settings : TokenSettings} {fault : SettingsFault}

theorem SetBy.read (h : settings.SetBy lookup) : TokenSettings.read lookup = .ok settings := by
  obtain ⟨hsecret, hminutes⟩ := h
  obtain ⟨secret, minutes⟩ := settings
  cases hminutes with
  | standard hlacks => exact read_of_no_minutes hsecret hlacks
  | held hraw hspells => exact read_of_spells hsecret hraw hspells

/-- What is wrong with what is set for tokens. -/
inductive FaultIn (lookup : Lookup) : SettingsFault → Prop where
  | noSecret (h : lookup.Lacks "AUTH_JWT_SECRET") : FaultIn lookup (.missing "AUTH_JWT_SECRET")
  | minutes {secret raw : String} {fault : SettingsFault}
      (hsecret : lookup.Holds "AUTH_JWT_SECRET" secret)
      (hraw : lookup.Holds "AUTH_JWT_TTL_MINUTES" raw) (h : MinutesFault raw fault) :
      FaultIn lookup fault

theorem FaultIn.read (h : FaultIn lookup fault) : TokenSettings.read lookup = .error fault := by
  cases h with
  | noSecret h => exact read_of_lacks h
  | minutes hsecret hraw h => exact read_of_minutesFault hsecret hraw h

theorem setBy_or_fault (lookup : Lookup) :
    (∃ settings : TokenSettings, settings.SetBy lookup) ∨ ∃ fault, FaultIn lookup fault := by
  cases hsecret : lookup.value? "AUTH_JWT_SECRET" with
  | none => exact .inr ⟨_, .noSecret (Lookup.value?_eq_none_iff.mp hsecret)⟩
  | some secret =>
    have hheld := Lookup.value?_eq_some_iff.mp hsecret
    cases hraw : lookup.value? "AUTH_JWT_TTL_MINUTES" with
    | none =>
      exact .inl ⟨⟨secret, 60⟩, hheld, .standard (Lookup.value?_eq_none_iff.mp hraw)⟩
    | some raw =>
      have hminutes := Lookup.value?_eq_some_iff.mp hraw
      rcases spellsMinutes_or_fault raw with ⟨n, hn⟩ | ⟨fault, hfault⟩
      · exact .inl ⟨⟨secret, n⟩, hheld, .held hminutes hn⟩
      · exact .inr ⟨fault, .minutes hheld hminutes hfault⟩

end TokenSettings

/-- **What comes of the minutes.** Somebody has set a secret and a text for the minutes. If the text
writes an integer from 1 to 52560000, the settings are read; if a greater one of less than 2^63, it
is too large; if one that is zero or less, or 2^63 or more, or if it writes none, it is not
positive. -/
theorem minutes_told_apart {lookup : Lookup} {secret raw : String}
    (hsecret : lookup.Holds "AUTH_JWT_SECRET" secret)
    (hraw : lookup.Holds "AUTH_JWT_TTL_MINUTES" raw) :
    (∀ n, Text.Writes raw.toList n →
      (1 ≤ n ∧ n ≤ 52560000 → TokenSettings.read lookup = .ok ⟨secret, n⟩) ∧
      (52560000 < n ∧ n < 9223372036854775808 → TokenSettings.read lookup =
        .error (.tooLarge "AUTH_JWT_TTL_MINUTES" (toString n) 52560000)) ∧
      (n ≤ 0 ∨ 9223372036854775808 ≤ n → TokenSettings.read lookup =
        .error (.notPositive "AUTH_JWT_TTL_MINUTES" raw))) ∧
    ((¬ ∃ n, Text.Writes raw.toList n) →
      TokenSettings.read lookup = .error (.notPositive "AUTH_JWT_TTL_MINUTES" raw)) := by
  refine ⟨fun n hwrites => ⟨?_, ?_, ?_⟩, TokenSettings.read_of_not_writes hsecret hraw⟩
  · exact fun hbounds => TokenSettings.read_of_spells hsecret hraw ⟨hwrites, hbounds⟩
  · exact fun hbounds =>
      TokenSettings.read_of_minutesFault hsecret hraw (.tooLarge hwrites hbounds.1 hbounds.2)
  · intro hbounds
    rw [TokenSettings.read_of_writes hsecret hraw hwrites, if_pos hbounds]

/-- Two hours, with zeros and a sign in front and blanks around them. -/
theorem two_hours_read :
    let lookup : Lookup := fun key =>
      [("AUTH_JWT_SECRET", "s3cret"), ("AUTH_JWT_TTL_MINUTES", " +000120 ")].lookup key
    TokenSettings.read lookup = .ok ⟨"s3cret", 120⟩ := by
  intro lookup
  have hsecret : lookup.Holds "AUTH_JWT_SECRET" "s3cret" :=
    Lookup.value?_eq_some_iff.mp (by decide)
  have hraw : lookup.Holds "AUTH_JWT_TTL_MINUTES" "+000120" :=
    Lookup.value?_eq_some_iff.mp (by decide)
  have hdigits : Text.IsNumeral "000120".toList 120 := Text.magnitude?_eq_some_iff.mp (by decide)
  have hwrites : Text.Writes "+000120".toList 120 := .natural (.plus hdigits)
  exact ((minutes_told_apart hsecret hraw).1 120 hwrites).1 (by decide)

/-- The least integer that does not fit into 64 bits is positive and refused as not being so. -/
theorem huge_minutes_not_positive :
    let lookup : Lookup := fun key =>
      [("AUTH_JWT_SECRET", "s3cret"), ("AUTH_JWT_TTL_MINUTES", "9223372036854775808")].lookup key
    lookup.Holds "AUTH_JWT_SECRET" "s3cret" ∧
      lookup.Holds "AUTH_JWT_TTL_MINUTES" "9223372036854775808" ∧
      Text.Writes "9223372036854775808".toList 9223372036854775808 ∧
      TokenSettings.read lookup =
        .error (.notPositive "AUTH_JWT_TTL_MINUTES" "9223372036854775808") ∧
      ∀ value most, TokenSettings.read lookup ≠
        .error (.tooLarge "AUTH_JWT_TTL_MINUTES" value most) := by
  intro lookup
  have hread : TokenSettings.read lookup =
      .error (.notPositive "AUTH_JWT_TTL_MINUTES" "9223372036854775808") := by rfl
  have hdigits : Text.IsNumeral "9223372036854775808".toList 9223372036854775808 :=
    Text.magnitude?_eq_some_iff.mp (by decide)
  refine ⟨Lookup.value?_eq_some_iff.mp (by decide), Lookup.value?_eq_some_iff.mp (by decide),
    .natural (.plain hdigits), hread, ?_⟩
  intro value most
  rw [hread]
  exact nofun

end UserAccounts
