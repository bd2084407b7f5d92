/-
# What refused logins tell

A login that is refused with a password that is long enough is always answered in
the same way, so it does not tell whether there is an active user with the address.
With a password that is too short it does: an active user's is answered that the
password is too short, and any other that the credentials are wrong
(`refused_alike_iff`). The length of a password is looked at after the user, and only
for one that is active.

Key definitions: `Request.AsksLogin`, `Hasher.Ends`, `Rows.Refuses`, `Rows.isActive`,
`refusal`.
Key theorems: `authenticate_refused`, `respond_refused`, `ofBody_toJson`,
`refused_alike_iff`, `short_password_tells`.
-/
import UserAccounts.Http.Router
import UserAccounts.Proofs.Json.Layout
import UserAccounts.Proofs.Store.Rows
import UserAccounts.Proofs.User.Password

namespace UserAccounts

/-! ### Refusals -/

/-- There is an active user with the address. -/
def Rows.isActive (rows : Rows) (email : String) : Bool :=
  match rows.find email with
  | .ok user => decide (user.status = .active)
  | .error _ => false

/-- Checking a password against a hash that is kept comes to an end. -/
def Hasher.Ends (hasher : Hasher) (rows : Rows) : Prop :=
  ∀ email user, rows.find email = .ok user →
    ∀ password, ∃ fits, hasher.verify user.passwordHash password = .ok fits

/-- The password is not the one of an active user with the address. -/
def Rows.Refuses (rows : Rows) (hasher : Hasher) (email password : String) : Prop :=
  ∀ user, rows.find email = .ok user → user.status = .active →
    user.compare hasher password ≠ .ok true

/-- Why somebody is refused: the password is too short, if the user is active, or else the
credentials are wrong. -/
def refusal (active : Bool) (password : String) : Failure :=
  if active = true ∧ password.length < leastPasswordLength then .ofViolation .passwordTooShort
  else .invalidCredential

theorem Hasher.plain_ends (rows : Rows) : Hasher.plain.Ends rows :=
  fun _ _ _ _ => ⟨_, rfl⟩

theorem refusal_of_long {password : String} (h : leastPasswordLength ≤ password.length)
    (active : Bool) : refusal active password = .invalidCredential :=
  if_neg fun hshort => Nat.not_le_of_lt hshort.2 h

section

variable {hasher : Hasher} {issuer : Issuer} {rows : Rows} {email password : String}

theorem Hasher.Ends.compare (hends : hasher.Ends rows) {user : User}
    (hfind : rows.find email = .ok user) (hlong : leastPasswordLength ≤ password.length) :
    ∃ fits, user.compare hasher password = .ok fits := by
  have htext : (⟨password, hlong⟩ : Password).text = password := rfl
  obtain ⟨fits, hverify⟩ := hends _ _ hfind ⟨password, hlong⟩
  refine ⟨fits, ?_⟩
  rw [user.compare_of_long hasher htext, hverify]

theorem checkCredentials_refused (hends : hasher.Ends rows) {user : User}
    (hrefused : rows.Refuses hasher email password) (hfind : rows.find email = .ok user) :
    checkCredentials hasher user password =
      .error (refusal (decide (user.status = .active)) password) := by
  unfold checkCredentials refusal
  by_cases hactive : user.status = .active
  · rw [if_neg fun hne => hne hactive]
    by_cases hshort : password.length < leastPasswordLength
    · rw [if_pos ⟨decide_eq_true hactive, hshort⟩, user.compare_of_short hasher hshort]
      rfl
    · obtain ⟨fits, hcompare⟩ := hends.compare hfind (Nat.le_of_not_lt hshort)
      have hfalse : fits = false := by
        rw [Bool.eq_false_iff]
        rintro rfl
        exact hrefused _ hfind hactive hcompare
      rw [if_neg fun h => hshort h.2, hcompare, hfalse]
  · rw [if_pos hactive, if_neg fun h => hactive (of_decide_eq_true h.1)]

theorem authenticate_refused (hends : hasher.Ends rows)
    (hrefused : rows.Refuses hasher email password) (now : Time.Instant) :
    authenticate hasher issuer (rows.find email) password now =
      .error (refusal (rows.isActive email) password) := by
  unfold authenticate Rows.isActive
  cases hfind : rows.find email with
  | error failure =>
    have hnone : failure = .notFound := by
      unfold Rows.find at hfind
      split at hfind
      · cases hfind
      · exact (Except.error.inj hfind).symm
    rw [hnone]
    exact congrArg Except.error (if_neg fun h => absurd h.1 (by decide)).symm
  | ok user =>
    simp only [checkCredentials_refused hends hrefused hfind]

end

/-! ### Requests -/

namespace Http

/-- The request asks to log in with what a form holds. -/
structure Request.AsksLogin (r : Request) (form : LoginForm) : Prop where
  path : Route.ofPath? r.path = some .login
  method : r.method = "POST"
  form : readForm LoginForm r = .ok form

variable {hasher : Hasher} {issuer : Issuer} {rows : Rows}

theorem respond_refused (hends : hasher.Ends rows) {r : Request} {form : LoginForm}
    (h : r.AsksLogin form) (hrefused : rows.Refuses hasher form.email form.password) (m : Moment) :
    Site.respond ⟨.memory, hasher, issuer⟩ m r rows =
      (failureResponse (refusal (rows.isActive form.email) form.password), rows) := by
  unfold Site.respond
  rw [h.path]
  simp only
  rw [if_neg (by rw [h.method]; decide)]
  simp only [Site.respondLogin, h.form, login, Persistence.memory,
    authenticate_refused hends hrefused]

def LoginForm.toJson (form : LoginForm) : Json.Value :=
  .object [("email", .text form.email), ("password", .text form.password)]

def loginRequest (form : LoginForm) : Request where
  method := "POST"
  target := "/v1/users/login"
  headers := [("content-type", "application/json")]
  body := Utf8.encode form.toJson.toText

theorem loginRequest_body (form : LoginForm) :
    (loginRequest form).body = Utf8.encode form.toJson.toText := by
  rw [loginRequest]

theorem ofBody_toJson (form : LoginForm) :
    Form.ofBody LoginForm (Utf8.encode form.toJson.toText) = .ok form := by
  have hread : Json.readLeadingRecord (Form.shape LoginForm) (Utf8.encode form.toJson.toText) =
      .ok (form.email, form.password, ()) :=
    Json.readLeadingRecord_written (by decide) ⟨trivial, trivial, trivial⟩ rfl
  rw [Form.ofBody, hread]
  rfl

theorem isJson_of_headers {r : Request} (h : r.headers = [("content-type", "application/json")]) :
    r.isJson = true := by
  unfold Request.isJson Request.header?
  rw [h]
  decide

theorem ofPath?_of_target {r : Request} (h : r.target = "/v1/users/login") :
    Route.ofPath? r.path = some .login := by
  unfold Request.path
  rw [h]
  decide

theorem asksLogin_loginRequest {form : LoginForm} (hvalid : (Form.errors form).isEmpty = true)
    (hsize : (loginRequest form).body.length ≤ mostBodyBytes) :
    (loginRequest form).AsksLogin form where
  path := ofPath?_of_target rfl
  method := rfl
  form := by
    have hjson : (loginRequest form).isJson = true := isJson_of_headers rfl
    have hread : readBody LoginForm (loginRequest form) = .ok form := by
      unfold readBody
      rw [if_neg (by rw [hjson]; decide), if_neg (Nat.not_lt.mpr hsize), loginRequest_body,
        ofBody_toJson]
      rfl
    unfold readForm
    rw [hread]
    exact if_pos hvalid

/-! ### What the answers tell -/

theorem failureResponse_refusal_inj {active active' : Bool} {password : String} :
    failureResponse (refusal active password) = failureResponse (refusal active' password) ↔
      leastPasswordLength ≤ password.length ∨ active = active' := by
  by_cases hlong : leastPasswordLength ≤ password.length
  · rw [refusal_of_long hlong, refusal_of_long hlong]
    exact ⟨fun _ => .inl hlong, fun _ => rfl⟩
  · have hstatus : ∀ known : Bool, (failureResponse (refusal known password)).status =
        if known = true then 400 else 401 := by
      intro known
      unfold refusal
      cases known with
      | true =>
        rw [if_pos ⟨rfl, Nat.lt_of_not_le hlong⟩]
        rfl
      | false =>
        rw [if_neg fun hshort => absurd hshort.1 (by decide)]
        rfl
    constructor
    · intro he
      have hsame := congrArg Response.status he
      rw [hstatus, hstatus] at hsame
      cases active <;> cases active'
      · exact .inr rfl
      · exact absurd hsame (by decide)
      · exact absurd hsame (by decide)
      · exact .inr rfl
    · rintro (hl | rfl)
      · exact absurd hl hlong
      · rfl

/-- **What refused logins tell.** Of two logins with one password, neither comes from an active user
with this password. They are answered in the same way if and only if the password is long enough, or
both addresses are those of active users, or neither is. -/
theorem refused_alike_iff (hasher : Hasher) (issuer : Issuer) {rows : Rows}
    (hends : hasher.Ends rows) {r r' : Request} {form form' : LoginForm} (h : r.AsksLogin form)
    (h' : r'.AsksLogin form') (hpassword : form.password = form'.password)
    (hrefused : rows.Refuses hasher form.email form.password)
    (hrefused' : rows.Refuses hasher form'.email form'.password) (m m' : Moment) :
    let answer := (Site.respond ⟨.memory, hasher, issuer⟩ m r rows).1
    let answer' := (Site.respond ⟨.memory, hasher, issuer⟩ m' r' rows).1
    answer = failureResponse (refusal (rows.isActive form.email) form.password) ∧
      answer' = failureResponse (refusal (rows.isActive form'.email) form.password) ∧
      (answer = answer' ↔ leastPasswordLength ≤ form.password.length ∨
        rows.isActive form.email = rows.isActive form'.email) := by
  intro answer answer'
  have hanswer : answer = _ := congrArg Prod.fst (respond_refused hends h hrefused m)
  have hanswer' : answer' = _ := congrArg Prod.fst (respond_refused hends h' hrefused' m')
  rw [← hpassword] at hanswer'
  refine ⟨hanswer, hanswer', ?_⟩
  rw [hanswer, hanswer']
  exact failureResponse_refusal_inj

/-- A wrong password that is long enough tells nothing of Ada. -/
theorem long_password_tells_nothing :
    let now : Time.Instant := ⟨0, 0, by decide, by decide, by decide⟩
    let hash := Hasher.plainBytes ⟨"12345678", by decide⟩
    let ada : User := ⟨⟨.replicate 16 0⟩, "ada@example.com", hash, "Ada", .active, now⟩
    let rows : Rows := ⟨[("ada@example.com", ada)]⟩
    let known : LoginForm := ⟨"ada@example.com", "87654321"⟩
    let unknown : LoginForm := ⟨"bob@example.com", "87654321"⟩
    let m : Moment := ⟨now, ⟨.replicate 16 0, .replicate 16 0⟩, .inMemory⟩
    let site : Site Rows Draft := ⟨.memory, .plain, fun id now => .ok ⟨id.toText, now⟩⟩
    (site.respond m (loginRequest known) rows).1 = failureResponse .invalidCredential ∧
      (site.respond m (loginRequest unknown) rows).1 = failureResponse .invalidCredential := by
  intro now hash ada rows known unknown m site
  have hknown : rows.Refuses .plain known.email known.password := by
    intro user hfind _
    obtain rfl : ada = user := Except.ok.inj hfind
    decide
  have hunknown : rows.Refuses .plain unknown.email unknown.password := by
    intro user hfind _
    cases hfind
  have hasks : (loginRequest known).AsksLogin known :=
    asksLogin_loginRequest (by decide) (by decide)
  have hasks' : (loginRequest unknown).AsksLogin unknown :=
    asksLogin_loginRequest (by decide) (by decide)
  obtain ⟨hanswer, hanswer', -⟩ := refused_alike_iff .plain site.issuer (Hasher.plain_ends rows)
    hasks hasks' rfl hknown hunknown m m
  have hlong : leastPasswordLength ≤ known.password.length := by decide
  rw [refusal_of_long hlong] at hanswer hanswer'
  exact ⟨hanswer, hanswer'⟩

/-- A password that is too short tells that Ada is an active user: her address is answered with
another status than Bob's. -/
theorem short_password_tells :
    let now : Time.Instant := ⟨0, 0, by decide, by decide, by decide⟩
    let hash := Hasher.plainBytes ⟨"12345678", by decide⟩
    let ada : User := ⟨⟨.replicate 16 0⟩, "ada@example.com", hash, "Ada", .active, now⟩
    let rows : Rows := ⟨[("ada@example.com", ada)]⟩
    let known : LoginForm := ⟨"ada@example.com", "short"⟩
    let unknown : LoginForm := ⟨"bob@example.com", "short"⟩
    let m : Moment := ⟨now, ⟨.replicate 16 0, .replicate 16 0⟩, .inMemory⟩
    let site : Site Rows Draft := ⟨.memory, .plain, fun id now => .ok ⟨id.toText, now⟩⟩
    readForm LoginForm (loginRequest known) = .ok known ∧
      readForm LoginForm (loginRequest unknown) = .ok unknown ∧
      rows.Refuses .plain known.email known.password ∧
      rows.Refuses .plain unknown.email unknown.password ∧
      (site.respond m (loginRequest known) rows).1.status = 400 ∧
      (site.respond m (loginRequest unknown) rows).1.status = 401 := by
  intro now hash ada rows known unknown m site
  have hknown : rows.Refuses .plain known.email known.password := by
    intro user hfind _
    obtain rfl : ada = user := Except.ok.inj hfind
    decide
  have hunknown : rows.Refuses .plain unknown.email unknown.password := by
    intro user hfind _
    cases hfind
  have hasks : (loginRequest known).AsksLogin known :=
    asksLogin_loginRequest (by decide) (by decide)
  have hasks' : (loginRequest unknown).AsksLogin unknown :=
    asksLogin_loginRequest (by decide) (by decide)
  refine ⟨hasks.form, hasks'.form, hknown, hunknown, ?_, ?_⟩
  · rw [respond_refused (Hasher.plain_ends rows) hasks hknown m]
    decide
  · rw [respond_refused (Hasher.plain_ends rows) hasks' hunknown m]
    decide

end Http

end UserAccounts
