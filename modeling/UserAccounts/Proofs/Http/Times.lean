/-
# Times in answers

An answer tells times in two places: when somebody signed up, and when a token expires.
Both are texts, and each tells its instant to the second, which the text determines and
is determined by (`times_told`). In a leap second it is the second that comes next
(`leap_seconds_told_as_next`).

The token that is answered says in its claims when it expires, too. The text beside it is
read as just this second (`Site.login_times`), whatever keeps the users and checks their
passwords; one second later it is only where a token of no minutes expires in a leap second.

Key definitions: `Response.Tells`.
Key theorems: `Spells.tells`, `Site.exists_output_of_login`, `Site.login_times`,
`times_told`, `leap_seconds_told_as_next`.
-/
import UserAccounts.Proofs.Http.Bodies
import UserAccounts.Proofs.Http.Login
import UserAccounts.Proofs.Http.Request
import UserAccounts.Proofs.Service.Login
import UserAccounts.Proofs.Time.Reading
import UserAccounts.Proofs.Token.Expiry

namespace UserAccounts.Http

open Time (Date Instant Reading)

/-- The body of the response is an object with this text under this key. -/
def Response.Tells (response : Response) (key text : String) : Prop :=
  ∃ members, Json.readDocument (Utf8.encode response.body) = some (.object members) ∧
    members.lookup key = some (.text text)

theorem Response.Spells.tells {response : Response} {members : List (String × Json.Tree)}
    {key text : String} (h : response.Spells (.object members))
    (hkey : members.lookup key = some (.text text)) : response.Tells key text :=
  ⟨members, h.read, hkey⟩

theorem signupBody_tells (output : SignupOutput) :
    (Response.json 201 (signupBody output)).Tells "createdAt"
      (output.createdAt.toText .seconds) := by
  have hfits : (signupBody output).FitsWithin 127 := by simp [signupBody]
  exact (spells_of_fits hfits 201).tells rfl

theorem loginBody_tells (output : LoginOutput) :
    (Response.json 200 (loginBody output)).Tells "token" output.token ∧
      (Response.json 200 (loginBody output)).Tells "expiresAt"
        (output.expiresAt.toText .seconds) := by
  have hfits : (loginBody output).FitsWithin 127 := by simp [loginBody]
  have hspells := spells_of_fits hfits 200
  exact ⟨hspells.tells rfl, hspells.tells rfl⟩

/-! ### Logins that succeed -/

section

variable {σ δ : Type} {site : Site σ δ} {m : Moment} {r : Request} {s : σ}

theorem Site.exists_output_of_login (hasks : r.Asks .login)
    (hstatus : (site.respond m r s).1.status = 200) :
    ∃ form output, readForm LoginForm r = .ok form ∧ (site.loginWith m form s).1 = .ok output ∧
      (site.respond m r s).1 = .json 200 (loginBody output) := by
  rw [respond_of_asks site hasks, answer_login] at hstatus ⊢
  rcases respondForm_comes (site.loginWith m) 200 loginBody r s with
    ⟨form, output, hform, hlogin, hanswer⟩ | ⟨failure, -, hanswer⟩
  · exact ⟨form, output, hform, hlogin, hanswer⟩
  · rw [hanswer] at hstatus
    exact absurd hstatus (failureResponse_status_ne failure (by decide))

theorem Site.exists_token_of_login {form : LoginForm} {output : LoginOutput}
    (h : (site.loginWith m form s).1 = .ok output) :
    ∃ id token, site.issuer id m.now = .ok token ∧ output.token = token.value ∧
      output.expiresAt = token.expiresAt := by
  have hin : authenticate site.hasher site.issuer (site.persistence.find form.email s).1
      form.password m.now = .ok output := h
  obtain ⟨user, token, -, -, -, htoken, rfl⟩ := authenticate_eq_ok_iff.mp hin
  exact ⟨user.id, token, htoken, rfl, rfl⟩

/-- The second that is told of a token's expiry is the one in its claims, or one more for a token of
no minutes in a leap second. -/
theorem toldSeconds_expiresAt {settings : TokenSettings} {id : Id} {now : Instant}
    {token : AccessToken} (h : Issuer.ofSettings settings id now = .ok token) :
    token.expiresAt.toldSeconds = (Claims.issued id now token.expiresAt).expiresAt.toInt +
      if settings.ttlMinutes = 0 ∧ now.isLeapSecond = true then 1 else 0 := by
  have hleap := now.isLeapSecond_of_addMinutes? (Issuer.expiresAt_of_issued h)
  have hclaims : (Claims.issued id now token.expiresAt).expiresAt.toInt =
      token.expiresAt.seconds := token.expiresAt.toInt_ofInt_seconds
  unfold Instant.toldSeconds
  rw [hclaims, hleap]
  simp only [Bool.and_eq_true, decide_eq_true_eq]

/-- **The expiry in the answer is the token's.** With a token that is signed with a secret, the
answer tells the second that the token itself says it expires at, or one more if the token holds for
no minutes and it is a leap second. -/
theorem Site.login_times {settings : TokenSettings} (hissuer : site.issuer = .ofSettings settings)
    (hasks : r.Asks .login) (hstatus : (site.respond m r s).1.status = 200) :
    ∃ token claims text time, (site.respond m r s).1.Tells "token" token ∧
      IsToken (Utf8.encode settings.secret) claims token ∧
      (site.respond m r s).1.Tells "expiresAt" text ∧ Reading.ofText? text = some time ∧
      time.Valid ∧ time.unixSeconds = claims.expiresAt.toInt +
        if settings.ttlMinutes = 0 ∧ m.now.isLeapSecond = true then 1 else 0 := by
  obtain ⟨form, output, -, hlogin, hanswer⟩ := exists_output_of_login hasks hstatus
  obtain ⟨id, token, htoken, hvalue, hexpires⟩ := exists_token_of_login hlogin
  obtain ⟨htells, htells'⟩ := loginBody_tells output
  rw [hissuer] at htoken
  have hseconds := output.expiresAt.unixSeconds_reading
  rw [hexpires, toldSeconds_expiresAt htoken, ← hexpires] at hseconds
  rw [hvalue] at htells
  rw [hanswer]
  exact ⟨_, _, _, _, htells, hexpires ▸ Issuer.isToken_of_issued htoken, htells',
    output.expiresAt.ofText?_toText, output.expiresAt.valid_reading, hseconds⟩

end

/-! ### All times -/

/-- **The times that are told.** Days are counted from 1970-01-01 by going from date to date. The
text of an instant tells the instant to the second, a leap second as the second that comes next,
which is the sixtieth of its minute behind the last. Two instants have one text just if the same
second is told of both, and is a sixtieth for both or for neither; and as long as years have four
digits, texts are in the order of these seconds, a sixtieth before the first of the next minute.
Such texts are what is told of when somebody signed up and of when a token expires, and a token that
is answered to a login says itself that it expires at the second that is told, or one before if it
holds for no minutes and it is a leap second. -/
theorem times_told {σ δ : Type} :
    (Date.toDay ⟨1970, 1, 1⟩ = 0 ∧
      ∀ d : Date, d.Valid → d.next.Valid ∧ d.next.toDay = d.toDay + 1) ∧
    (∀ t : Instant, t.ToldBy (t.toText .seconds)) ∧
    (∀ t u : Instant, t.toText .seconds = u.toText .seconds ↔
      t.toldSeconds = u.toldSeconds ∧ t.isSixtieth = u.isSixtieth) ∧
    (∀ t u : Instant, 0 ≤ t.reading.date.year ∧ t.reading.date.year ≤ 9999 →
      0 ≤ u.reading.date.year ∧ u.reading.date.year ≤ 9999 →
        (t.toText .seconds < u.toText .seconds ↔ t.toldSeconds < u.toldSeconds ∨
          t.toldSeconds = u.toldSeconds ∧ t.isSixtieth = true ∧ u.isSixtieth = false)) ∧
    (∀ output : SignupOutput, ∃ text,
      (Response.json 201 (signupBody output)).Tells "createdAt" text ∧
        output.createdAt.ToldBy text) ∧
    (∀ output : LoginOutput, ∃ text,
      (Response.json 200 (loginBody output)).Tells "expiresAt" text ∧
        output.expiresAt.ToldBy text) ∧
    ∀ (persistence : Persistence σ δ) (hasher : Hasher) (settings : TokenSettings) (m : Moment)
      (r : Request) (s : σ),
      let answer := (Site.respond ⟨persistence, hasher, .ofSettings settings⟩ m r s).1
      r.Asks .login → answer.status = 200 →
        ∃ token claims text time, answer.Tells "token" token ∧
          IsToken (Utf8.encode settings.secret) claims token ∧ answer.Tells "expiresAt" text ∧
          Reading.ofText? text = some time ∧ time.Valid ∧
          time.unixSeconds = claims.expiresAt.toInt +
            if settings.ttlMinutes = 0 ∧ m.now.isLeapSecond = true then 1 else 0 := by
  refine ⟨⟨by decide, fun d hd => ⟨hd.next, d.toDay_next hd⟩⟩, Instant.toldBy_toText,
    Instant.toText_inj, fun t u => Instant.toText_lt_iff, ?_, ?_, ?_⟩
  · intro output
    exact ⟨_, signupBody_tells output, output.createdAt.toldBy_toText⟩
  · intro output
    exact ⟨_, (loginBody_tells output).2, output.expiresAt.toldBy_toText⟩
  · intro persistence hasher settings m r s answer hasks hstatus
    exact Site.login_times rfl hasks hstatus

/-- Ada logs in a second before 1970, with a token for five minutes. -/
theorem ada_told_before_1970 :
    let now : Instant := ⟨-1, 0, by decide, by decide, by decide⟩
    let hash := Hasher.plainBytes ⟨"12345678", by decide⟩
    let ada : User := ⟨⟨.replicate 16 0⟩, "ada@example.com", hash, "Ada", .active, now⟩
    let rows : Rows := ⟨[("ada@example.com", ada)]⟩
    let form : LoginForm := ⟨"ada@example.com", "12345678"⟩
    let m : Moment := ⟨now, ⟨.replicate 16 0, .replicate 16 0⟩, .inMemory⟩
    let site : Site Rows Draft := ⟨.memory, .plain, .ofSettings ⟨"secret", 5⟩⟩
    let answer := (site.respond m (loginRequest form) rows).1
    answer.status = 200 ∧ ∃ token claims text time, answer.Tells "token" token ∧
      IsToken (Utf8.encode "secret") claims token ∧ answer.Tells "expiresAt" text ∧
      Reading.ofText? text = some time ∧ time.unixSeconds = claims.expiresAt.toInt := by
  intro now hash ada rows form m site answer
  have hasksLogin : (loginRequest form).AsksLogin form :=
    asksLogin_loginRequest (by decide) (by decide)
  have hasks : (loginRequest form).Asks .login :=
    ⟨hasksLogin.path, by rw [hasksLogin.method]; decide⟩
  obtain ⟨token, htoken⟩ : ∃ token, site.issuer ada.id now = .ok token := ⟨_, rfl⟩
  have hcompare : ada.compare .plain form.password = .ok true := by decide
  have hlogin : site.loginWith m form rows = (.ok (.ofUser ada token), rows) :=
    congrArg (·, rows) (authenticate_eq_ok_iff.mpr ⟨ada, token, rfl, rfl, hcompare, htoken, rfl⟩)
  have hstatus : answer.status = 200 := by
    show (site.respond m (loginRequest form) rows).1.status = 200
    rw [Site.respond_of_asks site hasks, Site.answer_login,
      respondForm_of_ok hasksLogin.form hlogin]
    rfl
  obtain ⟨-, -, -, -, -, -, hlogins⟩ := times_told (σ := Rows) (δ := Draft)
  obtain ⟨value, claims, text, time, hvalue, hclaims, htext, hread, -, hsame⟩ :=
    hlogins .memory .plain ⟨"secret", 5⟩ m (loginRequest form) rows hasks hstatus
  rw [if_neg fun hzero => absurd hzero.1 (by decide), Int.add_zero] at hsame
  exact ⟨hstatus, value, claims, text, time, hvalue, hclaims, htext, hread, hsame⟩

/-- A leap second behind any second but the last of a minute is told as the second that comes next,
and not as a sixtieth; and behind the last, a token of no minutes expires by its text one second
later than it says itself. -/
theorem leap_seconds_told_as_next :
    let odd : Instant := ⟨1768694404, 1333333333, by decide, by decide, by decide⟩
    let next : Instant := ⟨1768694405, 0, by decide, by decide, by decide⟩
    let last : Instant := ⟨1483228799, 1000000000, by decide, by decide, by decide⟩
    let settings : TokenSettings := ⟨"test-secret", 0⟩
    let id : Id := ⟨.replicate 16 7⟩
    odd.toText .seconds = "2026-01-18T00:00:05Z" ∧ odd.toText .seconds = next.toText .seconds ∧
      ∃ token claims time, Issuer.ofSettings settings id last = .ok token ∧
        IsToken (Utf8.encode settings.secret) claims token.value ∧
        token.expiresAt.toText .seconds = "2016-12-31T23:59:60Z" ∧
        Reading.ofText? (token.expiresAt.toText .seconds) = some time ∧
        time.unixSeconds = claims.expiresAt.toInt + 1 := by
  intro odd next last settings id
  obtain ⟨token, htoken, hexpires⟩ : ∃ token, Issuer.ofSettings settings id last = .ok token ∧
      token.expiresAt = last := ⟨_, rfl, rfl⟩
  have htold := toldSeconds_expiresAt htoken
  rw [if_pos ⟨rfl, by decide⟩] at htold
  refine ⟨by decide, by decide, token, _, token.expiresAt.reading, htoken,
    Issuer.isToken_of_issued htoken, ?_, token.expiresAt.ofText?_toText, ?_⟩
  · rw [hexpires]
    decide
  · rw [Instant.unixSeconds_reading, htold]

end UserAccounts.Http
