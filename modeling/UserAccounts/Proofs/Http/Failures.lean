/-
# What clients are told of failures

Whatever goes wrong with a request to sign up or to log in, what the client is told
has one shape (`errorBody`), and only three things can be told (`Told`): that the
input is at fault, with a message; that the credentials are wrong, when logging in;
or that there was a failure inside. The last two are always told in the same words.

This rests on what may fail. Keeping users, hashing and issuing tokens fail inside
(`Persistence.FailsInside`, `Hasher.FailsInside`, `Issuer.FailsInside`): memory and a
table do, and so do hashing with Argon2 and an issuer that signs.

Key definitions: `Persistence.FailsInside`, `Hasher.FailsInside`, `Issuer.FailsInside`,
`Site.Succeeds`, `Site.Fails`, `errorBody`, `Told`.
Key theorems: `signup_failure`, `login_failure`, `told_of_fails`,
`failures_told_in_one_shape`.
-/
import UserAccounts.Proofs.Http.Login
import UserAccounts.Proofs.Http.Request
import UserAccounts.Proofs.Service.Signup
import UserAccounts.Sql.Connection

namespace UserAccounts

namespace Failure

variable {failure : Failure}

theorem details_of_isInternal (h : failure.isInternal = true) : failure.details = .none := by
  cases failure with
  | invalid complaint => cases h
  | _ => rfl

theorem ne_invalidCredential_of_isInternal (h : failure.isInternal = true) :
    failure ≠ .invalidCredential := by
  rintro rfl
  cases h

end Failure

/-! ### Failing inside -/

namespace Persistence

variable {σ δ : Type} {p : Persistence σ δ} {failure : Failure}

/-- Whatever fails in finding a user, or in adding one in a transaction, fails inside. -/
structure FailsInside (p : Persistence σ δ) : Prop where
  find : ∀ email s failure, (p.find email s).1 = .error failure → failure.isInternal = true
  start : ∀ s failure, (p.start s).1 = .error failure → failure.isInternal = true
  createIn : ∀ user d s failure, (p.createIn user d s).1 = .error failure →
    failure.isInternal = true
  commit : ∀ d s failure, (p.commit d s).1 = .error failure → failure.isInternal = true

theorem FailsInside.createAlone (hp : p.FailsInside) {user : User} {s : σ}
    (h : (p.createAlone user s).1 = .error failure) : failure.isInternal = true := by
  unfold Persistence.createAlone at h
  rcases hstart : p.start s with ⟨refused | d, s₁⟩
  · simp only [hstart] at h
    obtain rfl := Except.error.inj h
    exact hp.start s refused (by rw [hstart])
  · rcases hcreate : p.createIn user d s₁ with ⟨refused | created, d₁, s₂⟩
    · simp only [hstart, hcreate] at h
      obtain rfl := Except.error.inj h
      exact hp.createIn user d s₁ refused (by rw [hcreate])
    · rcases hcommit : p.commit d₁ s₂ with ⟨refused | _, s₃⟩
      · simp only [hstart, hcreate, hcommit] at h
        obtain rfl := Except.error.inj h
        exact hp.commit d₁ s₂ refused (by rw [hcommit])
      · simp only [hstart, hcreate, hcommit] at h
        cases h

theorem FailsInside.findFailing (hp : p.FailsInside) (hf : failure.isInternal = true) :
    (p.findFailing failure).FailsInside where
  find _ _ _ h := Except.error.inj h ▸ hf
  start := hp.start
  createIn := hp.createIn
  commit := hp.commit

theorem FailsInside.createFailing (hp : p.FailsInside) (hf : failure.isInternal = true) :
    (p.createFailing failure).FailsInside where
  find := hp.find
  start := hp.start
  createIn _ _ _ _ h := Except.error.inj h ▸ hf
  commit := hp.commit

theorem memory_failsInside : memory.FailsInside where
  find email rows failure h := by
    have hnone : rows.find email = .error failure := h
    unfold Rows.find at hnone
    split at hnone
    · cases hnone
    · exact Except.error.inj hnone ▸ rfl
  start _ _ h := by cases h
  createIn user draft rows failure h := by
    cases hc : draft.create rows user with
    | ok more => rw [memory_createIn_of_ok hc] at h; cases h
    | error refused =>
      rw [memory_createIn_of_error hc] at h
      obtain rfl := Except.error.inj h
      exact (Draft.create_eq_error hc).2 ▸ rfl
  commit draft rows failure h := by
    cases hc : draft.commit rows with
    | ok more => rw [memory_commit_of_ok hc] at h; cases h
    | error refused =>
      rw [memory_commit_of_error hc] at h
      obtain rfl := Except.error.inj h
      obtain ⟨user, -, -, rfl⟩ := Draft.commit_eq_error hc
      rfl

end Persistence

namespace Sql

variable {κ : Type} {failure : Failure}

theorem Row.toUser_failure {row : Row} (h : row.toUser = .error failure) :
    failure.isInternal = true := by
  unfold Row.toUser at h
  split at h
  · exact Except.error.inj h ▸ rfl
  · cases h

theorem Connection.find_failure {c : Connection κ} {email : String} {k : κ}
    (h : (c.find email k).1 = .error failure) : failure.isInternal = true := by
  unfold Connection.find at h
  split at h
  · exact Except.error.inj h ▸ rfl
  · exact Except.error.inj h ▸ rfl
  · exact Row.toUser_failure h

theorem Connection.create_failure {c : Connection κ} {user : User} {k : κ}
    (h : (c.create user k).1 = .error failure) : failure.isInternal = true := by
  unfold Connection.create at h
  split at h
  · exact Except.error.inj h ▸ rfl
  · exact Except.error.inj h ▸ rfl
  · exact Row.toUser_failure h

theorem Connection.send_failure {c : Connection κ} {control : Control} {k : κ}
    (h : (c.send control k).1 = .error failure) : failure.isInternal = true := by
  unfold Connection.send at h
  split at h
  · cases h
  · exact Except.error.inj h ▸ rfl

/-- Users in a table fail inside, whatever the other end of the connection does. -/
theorem Connection.persistence_failsInside (c : Connection κ) : c.persistence.FailsInside where
  find _ _ _ h := find_failure h
  start _ _ h := send_failure h
  createIn user _ k failure h := by
    have hcreate : (c.create user k).1 = .error failure := h
    exact create_failure hcreate
  commit _ _ _ h := send_failure h

end Sql

/-- A hasher never finds fault with the input: it fails or breaks down. -/
structure Hasher.FailsInside (hasher : Hasher) : Prop where
  hash : ∀ salt password refusal, hasher.hash salt password = .error refusal →
    refusal.isInvalid = false
  verify : ∀ stored password refusal, hasher.verify stored password = .error refusal →
    refusal.isInvalid = false

namespace Hasher

theorem argon2_failsInside : argon2.FailsInside where
  hash salt password refusal h := by
    simp only [argon2] at h
    split at h
    · exact Except.error.inj h ▸ rfl
    · cases h
  verify stored password refusal h := by
    simp only [argon2] at h
    split at h
    · exact Except.error.inj h ▸ rfl
    · split at h
      · exact Except.error.inj h ▸ rfl
      · split at h
        · exact Except.error.inj h ▸ rfl
        · cases h

theorem crashing_failsInside : crashing.FailsInside where
  hash _ _ _ h := Except.error.inj h ▸ rfl
  verify _ _ _ h := Except.error.inj h ▸ rfl

end Hasher

/-- Whatever fails in issuing a token fails inside. -/
def Issuer.FailsInside (issuer : Issuer) : Prop :=
  ∀ id now failure, issuer id now = .error failure → failure.isInternal = true

theorem Issuer.ofSettings_failsInside (settings : TokenSettings) :
    (Issuer.ofSettings settings).FailsInside := by
  intro id now failure h
  unfold Issuer.ofSettings at h
  split at h
  · exact Except.error.inj h ▸ rfl
  · cases h

theorem Issuer.failing_failsInside {failure : Failure} (h : failure.isInternal = true) :
    (Issuer.failing failure).FailsInside :=
  fun _ _ _ he => Except.error.inj he ▸ h

/-! ### Failures of signing up and of logging in -/

section

variable {σ δ : Type} {p : Persistence σ δ} {hasher : Hasher} {issuer : Issuer}
  {random : Randomness} {now : Time.Instant} {s : σ} {failure : Failure}

theorem Password.of?_eq_error {text : String} {violation : Violation}
    (h : Password.of? text = .error violation) : violation = .passwordTooShort := by
  unfold Password.of? at h
  split at h
  · cases h
  · exact (Except.error.inj h).symm

/-- What a hasher that fails inside refuses is told without details, and not of credentials. -/
theorem ofRefusal_failure {refusal : Refusal} (h : refusal.isInvalid = false) :
    (Failure.ofRefusal refusal).details = .none ∧
      Failure.ofRefusal refusal ≠ .invalidCredential := by
  have hinside : (Failure.ofRefusal refusal).isInternal = true := by
    rw [Failure.isInternal_ofRefusal, h, Bool.not_false]
  exact ⟨Failure.details_of_isInternal hinside,
    Failure.ne_invalidCredential_of_isInternal hinside⟩

theorem prepare_failure (hh : hasher.FailsInside) {input : SignupInput}
    (h : prepare hasher random input now = .error failure) :
    failure.details = .none ∧ failure ≠ .invalidCredential := by
  unfold prepare User.create at h
  split at h
  · obtain rfl := Except.error.inj h
    exact ⟨rfl, nofun⟩
  · split at h
    · rename_i violation hshort
      obtain rfl := Password.of?_eq_error hshort
      obtain rfl := Except.error.inj h
      exact ⟨rfl, nofun⟩
    · split at h
      · rename_i refusal hhash
        obtain rfl := Except.error.inj h
        exact ofRefusal_failure (hh.hash _ _ _ hhash)
      · cases h

theorem signup_failure (hp : p.FailsInside) (hh : hasher.FailsInside) {input : SignupInput}
    (h : (signup p hasher random input now s).1 = .error failure) :
    failure.details = .none ∧ failure ≠ .invalidCredential := by
  unfold signup at h
  cases hprepare : prepare hasher random input now with
  | error refused =>
    simp only [hprepare] at h
    obtain rfl := Except.error.inj h
    exact prepare_failure hh hprepare
  | ok user =>
    simp only [hprepare] at h
    rcases hcreate : p.createAlone user s with ⟨refused | created, s'⟩
    · simp only [hcreate, Except.map] at h
      obtain rfl := Except.error.inj h
      have hrefused : (p.createAlone user s).1 = .error refused := by rw [hcreate]
      have hinside := hp.createAlone hrefused
      exact ⟨Failure.details_of_isInternal hinside,
        Failure.ne_invalidCredential_of_isInternal hinside⟩
    · simp only [hcreate, Except.map] at h
      cases h

theorem checkCredentials_failure (hh : hasher.FailsInside) {user : User} {password : String}
    (h : checkCredentials hasher user password = .error failure) : failure.details = .none := by
  unfold checkCredentials at h
  split at h
  · exact Except.error.inj h ▸ rfl
  · split at h
    · rename_i refusal hcompare
      obtain rfl := Except.error.inj h
      unfold User.compare at hcompare
      split at hcompare
      · rename_i violation hshort
        obtain rfl := Password.of?_eq_error hshort
        obtain rfl := Except.error.inj hcompare
        rfl
      · exact (ofRefusal_failure (hh.verify _ _ _ hcompare)).1
    · exact Except.error.inj h ▸ rfl
    · cases h

theorem authenticate_failure (hh : hasher.FailsInside) (hi : issuer.FailsInside)
    {found : Except Failure User}
    (hfound : ∀ missing, found = .error missing → missing.isInternal = true) {password : String}
    (h : authenticate hasher issuer found password now = .error failure) :
    failure.details = .none := by
  unfold authenticate at h
  split at h
  · exact Except.error.inj h ▸ rfl
  · rename_i missing _
    obtain rfl := Except.error.inj h
    exact Failure.details_of_isInternal (hfound missing rfl)
  · split at h
    · rename_i refused hcheck
      obtain rfl := Except.error.inj h
      exact checkCredentials_failure hh hcheck
    · split at h
      · rename_i refused hissue
        obtain rfl := Except.error.inj h
        exact Failure.details_of_isInternal (hi _ _ _ hissue)
      · cases h

theorem login_failure (hp : p.FailsInside) (hh : hasher.FailsInside) (hi : issuer.FailsInside)
    {input : LoginInput} (h : (login p hasher issuer input now s).1 = .error failure) :
    failure.details = .none :=
  authenticate_failure hh hi (hp.find input.email s) h

end

namespace Http

variable {σ δ : Type}

/-! ### What comes of a request -/

/-- The request to sign up or to log in comes to this answer, since nothing fails. -/
inductive Site.Succeeds (site : Site σ δ) (m : Moment) (r : Request) (s : σ) :
    Route → Response → Prop where
  | signup {form : SignupForm} {output : SignupOutput} (hform : readForm SignupForm r = .ok form)
      (hdone : (site.signupWith m form s).1 = .ok output) :
    site.Succeeds m r s .signup (.json 201 (signupBody output))
  | login {form : LoginForm} {output : LoginOutput} (hform : readForm LoginForm r = .ok form)
      (hdone : (site.loginWith m form s).1 = .ok output) :
    site.Succeeds m r s .login (.json 200 (loginBody output))

/-- The request to sign up or to log in comes to this failure: the form is not read, or what it
asks for fails. -/
inductive Site.Fails (site : Site σ δ) (m : Moment) (r : Request) (s : σ) :
    Route → Failure → Prop where
  | signupForm {failure : Failure} (h : readForm SignupForm r = .error failure) :
    site.Fails m r s .signup failure
  | signup {form : SignupForm} {failure : Failure} (hform : readForm SignupForm r = .ok form)
      (hfails : (site.signupWith m form s).1 = .error failure) :
    site.Fails m r s .signup failure
  | loginForm {failure : Failure} (h : readForm LoginForm r = .error failure) :
    site.Fails m r s .login failure
  | login {form : LoginForm} {failure : Failure} (hform : readForm LoginForm r = .ok form)
      (hfails : (site.loginWith m form s).1 = .error failure) :
    site.Fails m r s .login failure

section

variable {site : Site σ δ} {m : Moment} {r : Request} {s : σ} {route : Route}

theorem respond_comes (site : Site σ δ) (m : Moment) (s : σ) (h : r.Asks route)
    (hroute : route = .signup ∨ route = .login) :
    site.Succeeds m r s route (site.respond m r s).1 ∨
      ∃ failure, site.Fails m r s route failure ∧
        (site.respond m r s).1 = failureResponse failure := by
  rw [site.respond_of_asks h]
  rcases hroute with rfl | rfl
  · rw [site.answer_signup]
    rcases respondForm_comes (site.signupWith m) 201 signupBody r s with
      ⟨form, output, hform, hdone, hanswer⟩ | ⟨failure, hunread | ⟨form, hform, hdone⟩, hanswer⟩
    · rw [hanswer]
      exact .inl (.signup hform hdone)
    · exact .inr ⟨failure, .signupForm hunread, hanswer⟩
    · exact .inr ⟨failure, .signup hform hdone, hanswer⟩
  · rw [site.answer_login]
    rcases respondForm_comes (site.loginWith m) 200 loginBody r s with
      ⟨form, output, hform, hdone, hanswer⟩ | ⟨failure, hunread | ⟨form, hform, hdone⟩, hanswer⟩
    · rw [hanswer]
      exact .inl (.login hform hdone)
    · exact .inr ⟨failure, .loginForm hunread, hanswer⟩
    · exact .inr ⟨failure, .login hform hdone, hanswer⟩

end

/-! ### What is told -/

/-- The one shape in which clients are told of failures. -/
def errorBody (code message : String) : Json.Value :=
  .object [("error", .object [("code", .text code), ("message", .text message)])]

example : (errorBody "INTERNAL_ERROR" "An internal error occurred").toText =
    "\x7b\"error\":\x7b\"code\":\"INTERNAL_ERROR\"," ++
      "\"message\":\"An internal error occurred\"\x7d\x7d" := by decide

/-- An answer by which the client of a route is told of a failure. -/
inductive Told (route : Route) : Response → Prop where
  /-- The input is at fault. -/
  | input (message : String) : Told route (.json 400 (errorBody "VALIDATION_ERROR" message))
  /-- Who logs in is not let in. -/
  | credentials (h : route = .login) :
    Told route (.json 401 (errorBody "INVALID_CREDENTIAL" "invalid credential"))
  /-- There was a failure inside, of which nothing is told. -/
  | inside : Told route (.json 500 (errorBody "INTERNAL_ERROR" "An internal error occurred"))

theorem failureBody_of_details {failure : Failure} (h : failure.details = .none) :
    failureBody failure = errorBody failure.code failure.publicMessage := by
  unfold failureBody
  rw [h]
  rfl

theorem failureResponse_of_isInternal {failure : Failure} (h : failure.isInternal = true) :
    failureResponse failure =
      .json 500 (errorBody "INTERNAL_ERROR" "An internal error occurred") := by
  unfold failureResponse
  rw [failureBody_of_details (Failure.details_of_isInternal h)]
  cases failure with
  | invalid | invalidCredential => cases h
  | notFound | database | signing | internal => rfl

theorem told_of_details {route : Route} {failure : Failure} (h : failure.details = .none)
    (hcredential : failure = .invalidCredential → route = .login) :
    Told route (failureResponse failure) := by
  cases hinside : failure.isInternal with
  | true =>
    rw [failureResponse_of_isInternal hinside]
    exact .inside
  | false =>
    unfold failureResponse
    rw [failureBody_of_details h]
    cases failure with
    | invalid complaint => exact .input complaint.message
    | invalidCredential => exact .credentials (hcredential rfl)
    | notFound | database | signing | internal => cases hinside

section

variable {site : Site σ δ} {m : Moment} {r : Request} {s : σ} {route : Route} {failure : Failure}

/-- Whatever a request to sign up or to log in fails for is told in the one shape. -/
theorem told_of_fails (hp : site.persistence.FailsInside) (hh : site.hasher.FailsInside)
    (hi : UserAccounts.Issuer.FailsInside site.issuer) (h : site.Fails m r s route failure) :
    Told route (failureResponse failure) := by
  cases h with
  | signupForm hform =>
    obtain ⟨message, rfl⟩ := readForm_eq_error hform
    exact told_of_details rfl nofun
  | loginForm hform =>
    obtain ⟨message, rfl⟩ := readForm_eq_error hform
    exact told_of_details rfl nofun
  | signup hform hfails =>
    obtain ⟨hdetails, hne⟩ := signup_failure hp hh hfails
    exact told_of_details hdetails fun he => absurd he hne
  | login hform hfails => exact told_of_details (login_failure hp hh hi hfails) fun _ => rfl

end

/-- **Failures are told in one shape.** If keeping users, hashing and issuing tokens fail inside, a
request to sign up or to log in succeeds and is answered 201 or 200, or it fails and is answered by
a status 400, 401 or 500 and a body of one shape with the code that belongs to the status. Only
logging in is answered 401; every 401 has the same body, and so has every 500. -/
theorem failures_told_in_one_shape (site : Site σ δ) (hp : site.persistence.FailsInside)
    (hh : site.hasher.FailsInside) (hi : UserAccounts.Issuer.FailsInside site.issuer) (m : Moment)
    (r : Request) (s : σ) {route : Route} (h : r.Asks route)
    (hroute : route = .signup ∨ route = .login) :
    let answer := (site.respond m r s).1
    site.Succeeds m r s route answer ∨
      ∃ failure, site.Fails m r s route failure ∧ answer = failureResponse failure ∧
        Told route answer := by
  intro answer
  rcases respond_comes site m s h hroute with hsucceeds | ⟨failure, hfails, hanswer⟩
  · exact .inl hsucceeds
  · have htold := told_of_fails hp hh hi hfails
    rw [← hanswer] at htold
    exact .inr ⟨failure, hfails, hanswer, htold⟩

/-- Nobody can be found, and who logs in is told nothing of why. -/
theorem unreachable_store_told :
    let now : Time.Instant := ⟨0, 0, by decide, by decide, by decide⟩
    let m : Moment := ⟨now, ⟨.replicate 16 0, .replicate 16 0⟩, .inMemory⟩
    let lost : Failure := .database (.connection "connection refused on 10.0.0.3")
    let site : Site Rows Draft :=
      ⟨Persistence.memory.findFailing lost, .crashing, .failing (.signing "no key")⟩
    let form : LoginForm := ⟨"ada@example.com", "12345678"⟩
    (site.respond m (loginRequest form) .empty).1 =
      .json 500 (errorBody "INTERNAL_ERROR" "An internal error occurred") := by
  intro now m lost site form
  have hlogin : (loginRequest form).AsksLogin form :=
    asksLogin_loginRequest (by decide) (by decide)
  have hasks : (loginRequest form).Asks .login := ⟨hlogin.path, by rw [hlogin.method]; decide⟩
  rcases failures_told_in_one_shape site (Persistence.memory_failsInside.findFailing rfl)
    Hasher.crashing_failsInside (Issuer.failing_failsInside rfl) m _ .empty hasks (.inr rfl) with
    hsucceeds | ⟨_, hfails, he, -⟩
  · generalize (site.respond m (loginRequest form) .empty).1 = answer at hsucceeds
    cases hsucceeds with
    | login _ hdone => cases hdone
  · rw [he]
    cases hfails with
    | loginForm hform =>
      rw [hlogin.form] at hform
      cases hform
    | login _ hfails =>
      obtain rfl := Except.error.inj hfails
      rfl

end Http

end UserAccounts
