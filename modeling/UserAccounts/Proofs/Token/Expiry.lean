/-
# When tokens expire

Settings are allowed if they were checked, whether given or looked up, and then let
tokens hold for at least one minute (`TokenSettings.Allowed.minutes`). So the instant
of expiry lies behind the present: forward by whole minutes, the leap second left
behind, if there was one, and with nothing to stop at but the last second of the
calendar (`Instant.addMinutes?_of_pos`). A token is issued exactly up to there, and
what it says of its expiry is what is told with it (`tokens_expire_exactly`).

Settings that were not checked may hold any word of 64 bits, negative ones too; on the
way to the instant nothing leaves the word (`Instant.bind_plus?`), and there is a
token or the failure that says how many minutes were too many.

Key definitions: `TokenSettings.Allowed`, `Instant.Before`.
Key theorems: `TokenSettings.Allowed.minutes`, `Instant.addMinutes?_of_pos`,
`Issuer.exists_token_iff`, `tokens_expire_exactly`.
-/
import UserAccounts.Proofs.Token.Issuer
import UserAccounts.Settings.Lookup

namespace UserAccounts

/-! ### Settings -/

/-- The settings have been taken, as they were given or as they were looked up. -/
def TokenSettings.Allowed (settings : TokenSettings) : Prop :=
  (∃ secret minutes, TokenSettings.of? secret minutes = .ok settings) ∨
    ∃ lookup, TokenSettings.read lookup = .ok settings

theorem TokenSettings.of?_minutes {secret : String} {minutes : Int} {settings : TokenSettings}
    (h : TokenSettings.of? secret minutes = .ok settings) :
    0 < settings.ttlMinutes ∧ settings.ttlMinutes ≤ mostMinutes := by
  unfold TokenSettings.of? at h
  split at h
  · cases h
  · split at h
    · cases h
    · split at h
      · cases h
      · rw [← Except.ok.inj h]
        show 0 < minutes ∧ minutes ≤ mostMinutes
        omega

theorem TokenSettings.exists_of?_of_read {lookup : Lookup} {settings : TokenSettings}
    (h : TokenSettings.read lookup = .ok settings) :
    ∃ secret minutes, TokenSettings.of? secret minutes = .ok settings := by
  unfold TokenSettings.read at h
  simp only [bind, Except.bind] at h
  cases hsecret : lookup.value? secretKey with
  | none => simp [hsecret] at h
  | some secret =>
    cases hraw : lookup.value? minutesKey with
    | none =>
      simp only [hsecret, hraw] at h
      exact ⟨_, _, h⟩
    | some raw =>
      cases hread : Text.readInteger wordRange.1 wordRange.2 raw.toList with
      | error fault => simp [hsecret, hraw, hread] at h
      | ok n =>
        simp only [hsecret, hraw, hread] at h
        split at h
        · exact ⟨_, _, h⟩
        · cases h

theorem TokenSettings.Allowed.minutes {settings : TokenSettings} (h : settings.Allowed) :
    0 < settings.ttlMinutes ∧ settings.ttlMinutes ≤ mostMinutes := by
  rcases h with ⟨secret, minutes, hof⟩ | ⟨lookup, hread⟩
  · exact of?_minutes hof
  · obtain ⟨secret, minutes, hof⟩ := exists_of?_of_read hread
    exact of?_minutes hof

/-! ### Instants -/

namespace Time.Instant

/-- One instant is earlier than another; a leap second comes late in its second. -/
def Before (t u : Instant) : Prop :=
  t.seconds < u.seconds ∨ t.seconds = u.seconds ∧ t.nanos < u.nanos

variable (t : Instant) {minutes : Int}

/-- Minutes later it is not a leap second. -/
theorem addMinutes?_of_pos (h : 0 < minutes) :
    t.addMinutes? minutes = Instant.of? (t.seconds + 60 * minutes) (t.nanos % 1000000000) := by
  have hnanos := t.nanos_lt
  unfold addMinutes? isLeapSecond
  by_cases hleap : 1000000000 ≤ t.nanos
  · have hrest : t.nanos % 1000000000 = t.nanos - 1000000000 := by omega
    rw [decide_eq_true hleap, if_pos rfl, if_pos h, hrest]
  · have hrest : t.nanos % 1000000000 = t.nanos := Nat.mod_eq_of_lt (by omega)
    rw [decide_eq_false hleap, if_neg (by decide), hrest]

/-- The calendar ends the minutes that can be added, and nothing else does. -/
theorem exists_addMinutes?_iff (h : 0 < minutes) :
    (∃ u, t.addMinutes? minutes = some u) ↔ t.seconds + 60 * minutes ≤ 8210266876799 := by
  have hbounds := t.seconds_bounds
  rw [t.addMinutes?_of_pos h]
  constructor
  · rintro ⟨u, hu⟩
    rw [← (of?_eq_some_iff.mp hu).1]
    exact u.seconds_bounds.2
  · intro hlast
    have hfirst : firstSecond ≤ t.seconds + 60 * minutes := by
      unfold firstSecond
      omega
    exact ⟨⟨t.seconds + 60 * minutes, t.nanos % 1000000000, hfirst, hlast, by omega⟩,
      of?_eq_some_iff.mpr ⟨rfl, rfl⟩⟩

/-- Minutes later it is later, in seconds by as many. -/
theorem of_addMinutes?_of_pos (h : 0 < minutes) {u : Instant}
    (hu : t.addMinutes? minutes = some u) :
    u.seconds = t.seconds + 60 * minutes ∧ t.Before u ∧ u.isLeapSecond = false := by
  have hleap : u.isLeapSecond = false := by
    rw [t.isLeapSecond_of_addMinutes? hu, decide_eq_false (Int.ne_of_gt h), Bool.false_and]
  rw [t.addMinutes?_of_pos h] at hu
  have hseconds := (of?_eq_some_iff.mp hu).1
  exact ⟨hseconds, .inl (by omega), hleap⟩

end Time.Instant

/-! ### Tokens -/

section

variable {settings : TokenSettings} {id : Id} {now : Time.Instant}

theorem Issuer.expiresAt_of_issued {token : AccessToken}
    (h : Issuer.ofSettings settings id now = .ok token) :
    now.addMinutes? settings.ttlMinutes = some token.expiresAt := by
  unfold Issuer.ofSettings at h
  split at h
  · cases h
  · rename_i hexpiry
    rw [hexpiry, ← Except.ok.inj h]

theorem Issuer.exists_token_iff :
    (∃ token, Issuer.ofSettings settings id now = .ok token) ↔
      ∃ t, now.addMinutes? settings.ttlMinutes = some t := by
  constructor
  · rintro ⟨token, h⟩
    exact ⟨_, expiresAt_of_issued h⟩
  · rintro ⟨t, h⟩
    unfold Issuer.ofSettings
    simp only [h]
    exact ⟨_, rfl⟩

theorem Issuer.issued_or_overflow (settings : TokenSettings) (id : Id) (now : Time.Instant) :
    (∃ token, Issuer.ofSettings settings id now = .ok token) ∨
      Issuer.ofSettings settings id now =
        .error (.internal (.expiryOverflow settings.ttlMinutes)) := by
  unfold Issuer.ofSettings
  cases now.addMinutes? settings.ttlMinutes with
  | none => exact .inr rfl
  | some t => exact .inl ⟨_, rfl⟩

/-- **Tokens expire exactly.** With settings that are allowed a token is issued if and only if it
expires by the last second of the calendar; otherwise it is told how many minutes were too many.
What the token says is then as many minutes apart, and it expires later than now, in no leap second
and in the second that it says. With any minutes of 64 bits there is a token or this failure, and no
product or sum on the way to it leaves its word. -/
theorem tokens_expire_exactly :
    (∀ settings : TokenSettings, settings.Allowed → ∀ (id : Id) (now : Time.Instant),
      let issued := Issuer.ofSettings settings id now
      ((∃ token, issued = .ok token) ↔
        now.seconds + 60 * settings.ttlMinutes ≤ 8210266876799) ∧
      (¬ now.seconds + 60 * settings.ttlMinutes ≤ 8210266876799 →
        issued = .error (.internal (.expiryOverflow settings.ttlMinutes))) ∧
      ∀ token, issued = .ok token →
        ∃ claims, IsToken (Utf8.encode settings.secret) claims token.value ∧
          claims.issuedAt.toInt = now.seconds ∧
          claims.expiresAt.toInt - claims.issuedAt.toInt = 60 * settings.ttlMinutes ∧
          now.Before token.expiresAt ∧ token.expiresAt.isLeapSecond = false ∧
          token.expiresAt.seconds = claims.expiresAt.toInt) ∧
    ∀ (secret : String) (minutes : Int64) (id : Id) (now : Time.Instant),
      let issued := Issuer.ofSettings ⟨secret, minutes.toInt⟩ id now
      ((∃ token, issued = .ok token) ∨
        issued = .error (.internal (.expiryOverflow minutes.toInt))) ∧
      now.addMinutes? minutes.toInt = (Time.Span.ofMinutes? minutes).bind now.plus? ∧
      ∀ span, Time.Span.ofMinutes? minutes = some span →
        span.seconds.toInt = 60 * minutes.toInt ∧
        (Int64.ofInt now.seconds + span.seconds).toInt = now.seconds + span.seconds.toInt ∧
        (Int64.ofInt now.seconds + 1 + span.seconds).toInt =
          now.seconds + 1 + span.seconds.toInt := by
  constructor
  · intro settings hallowed id now issued
    have hpos := hallowed.minutes.1
    have hiff : (∃ token, issued = .ok token) ↔
        now.seconds + 60 * settings.ttlMinutes ≤ 8210266876799 :=
      Issuer.exists_token_iff.trans (now.exists_addMinutes?_iff hpos)
    refine ⟨hiff, ?_, ?_⟩
    · intro hlate
      exact (Issuer.issued_or_overflow settings id now).resolve_left (mt hiff.mp hlate)
    · intro token htoken
      obtain ⟨hseconds, hbefore, hleap⟩ :=
        now.of_addMinutes?_of_pos hpos (Issuer.expiresAt_of_issued htoken)
      have hissuedAt := now.toInt_ofInt_seconds
      have hexpiresAt := token.expiresAt.toInt_ofInt_seconds
      refine ⟨_, Issuer.isToken_of_issued htoken, hissuedAt, ?_, hbefore, hleap, hexpiresAt.symm⟩
      simp only [Claims.issued]
      omega
  · intro secret minutes id now issued
    refine ⟨Issuer.issued_or_overflow _ id now, (now.bind_plus? minutes).symm, ?_⟩
    intro span hspan
    exact ⟨Time.Span.ofMinutes?_eq_some_iff.mp hspan, now.toInt_sum span,
      now.toInt_sum_behind span⟩

end

/-- In the last minute of the calendar but one there is a token yet, which expires in its last
second; a second later there is none. -/
theorem issued_up_to_the_last_second :
    let settings : TokenSettings := ⟨"secret", 1⟩
    let id : Id := ⟨.replicate 16 7⟩
    let leap : Time.Instant :=
      ⟨8210266876739, 1500000000, by decide, by decide, by decide⟩
    let late : Time.Instant := ⟨8210266876740, 0, by decide, by decide, by decide⟩
    settings.Allowed ∧
      (∃ token claims, Issuer.ofSettings settings id leap = .ok token ∧
        IsToken (Utf8.encode "secret") claims token.value ∧
        claims.expiresAt.toInt = 8210266876799 ∧ token.expiresAt.isLeapSecond = false) ∧
      Issuer.ofSettings settings id late = .error (.internal (.expiryOverflow 1)) := by
  intro settings id leap late
  have hallowed : settings.Allowed := .inl ⟨"secret", 1, rfl⟩
  obtain ⟨hissued, -, hholds⟩ := tokens_expire_exactly.1 settings hallowed id leap
  obtain ⟨-, hlate, -⟩ := tokens_expire_exactly.1 settings hallowed id late
  obtain ⟨token, htoken⟩ := hissued.mpr (by decide)
  obtain ⟨claims, hclaims, hnow, hminutes, -, hleap, -⟩ := hholds token htoken
  refine ⟨hallowed, ⟨token, claims, htoken, hclaims, ?_, hleap⟩, hlate (by decide)⟩
  rw [hnow] at hminutes
  have hexact : claims.expiresAt.toInt - 8210266876739 = 60 * 1 := hminutes
  omega

end UserAccounts
