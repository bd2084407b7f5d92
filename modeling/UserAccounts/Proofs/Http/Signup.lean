/-
# Which requests sign somebody up

With users in memory and a hasher that does not fail, a request is answered 201
exactly if it asks to sign up, its body is taken, its three fields are right, and no
committed user has the address (`Request.SignsUp`). Then one row is added, of an
active user with the name and the address of the form and the identifier that is
told. Every other request, whatever it asks for, leaves the rows as they were
(`created_iff`).

The conditions are looked at in four places: where the form is read, where its fields
are checked, where the user is made, and where the row is added. The fields are
checked twice, and the second time is the stricter one: a password that is not empty
may be too short, a name that is not empty may be blank (`signsUp_iff`).

Key definitions: `Hasher.AlwaysHashes`, `Request.SignsUp`.
Key theorems: `respond_memory_cases`, `signsUp_iff`, `created_iff`.
-/
import UserAccounts.Proofs.Http.Login
import UserAccounts.Proofs.Http.Request
import UserAccounts.Proofs.Service.Signup

namespace UserAccounts

/-- Hashing a password never fails. -/
def Hasher.AlwaysHashes (hasher : Hasher) : Prop :=
  ∀ salt password, ∃ stored, hasher.hash salt password = .ok stored

theorem Hasher.plain_alwaysHashes : Hasher.plain.AlwaysHashes :=
  fun _ _ => ⟨_, rfl⟩

namespace Http

variable {hasher : Hasher} {issuer : Issuer} {m : Moment} {r : Request} {rows : Rows}
  {form : SignupForm}

/-! ### Answers that create nobody -/

theorem healthResponse_status_ne (health : Health) : (healthResponse health).status ≠ 201 := by
  cases health <;> exact nofun

theorem answer_health_status_ne (site : Site Rows Draft) :
    (site.answer m r rows .health).1.status ≠ 201 := by
  have hstatus : (site.answer m r rows .health).1.status = (healthResponse m.health).status := by
    show (if r.method = "HEAD" then { healthResponse m.health with body := "" }
      else healthResponse m.health).status = _
    split <;> rfl
  rw [hstatus]
  exact healthResponse_status_ne m.health

theorem answer_login_idle (hasher : Hasher) (issuer : Issuer) (m : Moment) (r : Request)
    (rows : Rows) :
    let comes := Site.answer ⟨.memory, hasher, issuer⟩ m r rows .login
    comes.2 = rows ∧ comes.1.status ≠ 201 := by
  intro comes
  have hcomes : comes = _ := Site.answer_login ⟨.memory, hasher, issuer⟩ m r rows
  rw [hcomes]
  refine ⟨respondForm_kept fun _ => rfl, ?_⟩
  rcases respondForm_comes (Site.loginWith ⟨.memory, hasher, issuer⟩ m) 200 loginBody r rows with
    ⟨_, _, -, -, hanswer⟩ | ⟨failure, -, hanswer⟩
  · rw [hanswer]
    exact nofun
  · rw [hanswer]
    exact failureResponse_status_ne failure (by decide)

/-! ### Answers to all requests -/

/-- What signing up comes to: the rows stay and the answer is not 201, or a user is made and
added. -/
theorem answer_signup_cases (hasher : Hasher) (issuer : Issuer) (m : Moment) (r : Request)
    (rows : Rows) :
    let comes := Site.answer ⟨.memory, hasher, issuer⟩ m r rows .signup
    (comes.2 = rows ∧ comes.1.status ≠ 201) ∨
      ∃ form user, readForm SignupForm r = .ok form ∧
        prepare hasher m.random ⟨form.email, form.password, form.name⟩ m.now = .ok user ∧
        rows.contains user.email = false ∧
        comes = (.json 201 (signupBody (.ofUser user)), rows.extend [user]) := by
  intro comes
  have hcomes : comes = _ := Site.answer_signup ⟨.memory, hasher, issuer⟩ m r rows
  rw [hcomes]
  cases hform : readForm SignupForm r with
  | error failure =>
    rw [respondForm_unread hform]
    exact .inl ⟨rfl, failureResponse_status_ne failure (by decide)⟩
  | ok form =>
    rcases signup_cases hasher m.random ⟨form.email, form.password, form.name⟩ m.now rows with
      ⟨failure, hsignup⟩ | ⟨user, hprepare, hfree, hsignup⟩
    · rw [respondForm_of_error hform hsignup]
      exact .inl ⟨rfl, failureResponse_status_ne failure (by decide)⟩
    · exact .inr ⟨form, user, rfl, hprepare, hfree, respondForm_of_ok hform hsignup⟩

theorem respond_memory_cases (hasher : Hasher) (issuer : Issuer) (m : Moment) (r : Request)
    (rows : Rows) :
    let comes := Site.respond ⟨.memory, hasher, issuer⟩ m r rows
    (comes.2 = rows ∧ comes.1.status ≠ 201) ∨
      ∃ form user, r.Asks .signup ∧ readForm SignupForm r = .ok form ∧
        prepare hasher m.random ⟨form.email, form.password, form.name⟩ m.now = .ok user ∧
        rows.contains user.email = false ∧
        comes = (.json 201 (signupBody (.ofUser user)), rows.extend [user]) := by
  intro comes
  by_cases hasks : ∃ route, r.Asks route
  · obtain ⟨route, hasks⟩ := hasks
    have hcomes : comes = Site.answer ⟨.memory, hasher, issuer⟩ m r rows route :=
      Site.respond_of_asks _ hasks m rows
    cases route with
    | health => exact .inl ⟨by rw [hcomes]; rfl, by rw [hcomes]; exact answer_health_status_ne _⟩
    | login =>
      obtain ⟨hrows, hstatus⟩ := answer_login_idle hasher issuer m r rows
      exact .inl ⟨by rw [hcomes]; exact hrows, by rw [hcomes]; exact hstatus⟩
    | signup =>
      rw [hcomes]
      rcases answer_signup_cases hasher issuer m r rows with hidle | ⟨form, user, hadded⟩
      · exact .inl hidle
      · exact .inr ⟨form, user, hasks, hadded⟩
  · have hcomes : comes = (r.turnedAway, rows) :=
      Site.respond_turnedAway _ (not_exists.mp hasks) m rows
    rw [hcomes]
    refine .inl ⟨rfl, ?_⟩
    rcases r.turnedAway_status with hstatus | hstatus <;> rw [hstatus] <;> decide

/-! ### Requests that sign somebody up -/

/-- The request signs somebody up with what the form holds. -/
structure Request.SignsUp (r : Request) (rows : Rows) (form : SignupForm) : Prop where
  method : r.method = "POST"
  path : r.path = "/signup"
  /-- The first header that tells the type of the body tells one of JSON. -/
  json : ∃ value type, r.header? "content-type" = some value ∧
    MediaType.read value.toList = some type ∧ type.isJson = true
  size : r.body.length ≤ 2097152
  body : Form.ofBody SignupForm r.body = .ok form
  email : Email.isAddress form.email = true
  name : ∃ c ∈ form.name.toList, Text.isBlank c = false
  password : 8 ≤ form.password.length
  /-- No committed user is under this address. -/
  free : ∀ entry ∈ rows.entries, entry.1 ≠ form.email

theorem asks_signup_iff : r.Asks .signup ↔ r.method = "POST" ∧ r.path = "/signup" := by
  constructor
  · intro h
    exact ⟨List.mem_singleton.mp h.method, Route.ofPath?_eq_some_iff.mp h.path⟩
  · rintro ⟨hmethod, hpath⟩
    exact ⟨Route.ofPath?_eq_some_iff.mpr hpath, List.mem_singleton.mpr hmethod⟩

theorem signupForm_errors_isEmpty_iff :
    (Form.errors form).isEmpty = true ↔
      Email.isAddress form.email = true ∧ form.password ≠ "" ∧ form.name ≠ "" := by
  show (emailErrors form.email ++ requiredErrors "password" form.password ++
    requiredErrors "name" form.name).isEmpty = true ↔ _
  rw [List.isEmpty_iff, List.append_eq_nil_iff, List.append_eq_nil_iff, emailErrors_eq_nil_iff,
    requiredErrors_eq_nil_iff, requiredErrors_eq_nil_iff, and_assoc]

/-- The conditions on a request, each as it is looked at: the form is read, the input violates no
rule, and the address is free. -/
theorem signsUp_iff :
    r.SignsUp rows form ↔ r.Asks .signup ∧ readForm SignupForm r = .ok form ∧
      (SignupInput.mk form.email form.password form.name).violation? = none ∧
      rows.contains form.email = false := by
  rw [asks_signup_iff, readForm_eq_ok_iff, Request.isJson_iff, signupForm_errors_isEmpty_iff,
    violation?_eq_none_iff, Rows.contains_eq_false_iff, allBlank_eq_false_iff]
  constructor
  · intro h
    have hpassword : form.password ≠ "" := by
      intro he
      have hlong := h.password
      rw [he] at hlong
      exact absurd hlong (by decide)
    have hname : form.name ≠ "" := by
      intro he
      obtain ⟨c, hc, -⟩ := h.name
      rw [he] at hc
      cases hc
    exact ⟨⟨h.method, h.path⟩, ⟨h.json, h.size, h.body, h.email, hpassword, hname⟩,
      ⟨h.name, h.password⟩, h.free⟩
  · rintro ⟨⟨hmethod, hpath⟩, ⟨hjson, hsize, hbody, hemail, -, -⟩, ⟨hname, hpassword⟩, hfree⟩
    exact ⟨hmethod, hpath, hjson, hsize, hbody, hemail, hname, hpassword, hfree⟩

theorem respond_of_signsUp (hhash : hasher.AlwaysHashes) (h : r.SignsUp rows form) (issuer : Issuer)
    (m : Moment) :
    ∃ user : User, user.email = form.email ∧ user.name = form.name ∧ user.status = .active ∧
      user.createdAt = m.now ∧
      Site.respond ⟨.memory, hasher, issuer⟩ m r rows =
        (.json 201 (signupBody (.ofUser user)), rows.extend [user]) := by
  obtain ⟨hasks, hform, hvalid, hfree⟩ := signsUp_iff.mp h
  obtain ⟨password, hpassword⟩ := exists_password hvalid
  obtain ⟨hash, hhashed⟩ := hhash m.random.salt password
  let input : SignupInput := ⟨form.email, form.password, form.name⟩
  have hprepare : prepare hasher m.random input m.now = .ok (input.user m.random hash m.now) :=
    prepare_eq_ok_iff.mpr ⟨hvalid, password, hash, hpassword, hhashed, rfl⟩
  have htaken : ¬ rows.contains (input.user m.random hash m.now).email = true := by
    show ¬ rows.contains form.email = true
    rw [hfree]
    decide
  have hsignup := signup_of_prepared hprepare rows
  rw [if_neg htaken] at hsignup
  refine ⟨input.user m.random hash m.now, rfl, rfl, rfl, rfl, ?_⟩
  rw [Site.respond_of_asks _ hasks, Site.answer_signup]
  exact respondForm_of_ok hform hsignup

/-- **Which requests sign somebody up.** A request is answered 201 if and only if `Request.SignsUp`
holds of it. Then exactly one row is added, under the address of the form: an active user with the
address and the name of the form and the identifier of the answer. A request that is not answered
201 leaves the rows as they were. -/
theorem created_iff (hhash : hasher.AlwaysHashes) (issuer : Issuer) (m : Moment) (r : Request)
    (rows : Rows) :
    let answer := (Site.respond ⟨.memory, hasher, issuer⟩ m r rows).1
    let after := (Site.respond ⟨.memory, hasher, issuer⟩ m r rows).2
    (answer.status = 201 ↔ ∃ form, r.SignsUp rows form) ∧
    (∀ form, r.SignsUp rows form → ∃ user : User,
      user.email = form.email ∧ user.name = form.name ∧ user.status = .active ∧
      after.entries = rows.entries ++ [(form.email, user)] ∧
      answer = .json 201 (signupBody ⟨user.id, form.name, form.email, .active, m.now⟩)) ∧
    (answer.status ≠ 201 → after = rows) := by
  intro answer after
  have hcreates : ∀ form, r.SignsUp rows form → ∃ user : User,
      user.email = form.email ∧ user.name = form.name ∧ user.status = .active ∧
      after.entries = rows.entries ++ [(form.email, user)] ∧
      answer = .json 201 (signupBody ⟨user.id, form.name, form.email, .active, m.now⟩) := by
    intro form h
    obtain ⟨user, hemail, hname, hstatus, hnow, hcomes⟩ := respond_of_signsUp hhash h issuer m
    have hafter : after = rows.extend [user] := congrArg Prod.snd hcomes
    have hanswer : answer = .json 201 (signupBody (.ofUser user)) := congrArg Prod.fst hcomes
    refine ⟨user, hemail, hname, hstatus, ?_, ?_⟩
    · rw [hafter, ← hemail]
      rfl
    · rw [hanswer, ← hemail, ← hname, ← hstatus, ← hnow]
      rfl
  refine ⟨⟨?_, ?_⟩, hcreates, ?_⟩
  · intro hstatus
    rcases respond_memory_cases hasher issuer m r rows with
      ⟨-, hne⟩ | ⟨form, user, hasks, hform, hprepare, hfree, -⟩
    · exact absurd hstatus hne
    · obtain ⟨hvalid, password, hash, -, -, rfl⟩ := prepare_eq_ok_iff.mp hprepare
      exact ⟨form, signsUp_iff.mpr ⟨hasks, hform, hvalid, hfree⟩⟩
  · rintro ⟨form, h⟩
    obtain ⟨user, -, -, -, -, hanswer⟩ := hcreates form h
    rw [hanswer]
    rfl
  · intro hstatus
    rcases respond_memory_cases hasher issuer m r rows with
      ⟨hrows, -⟩ | ⟨form, user, -, -, -, -, hcomes⟩
    · exact hrows
    · have hcreated : answer.status = 201 := congrArg (fun comes => comes.1.status) hcomes
      exact absurd hcreated hstatus

/-! ### A request to sign up -/

def SignupForm.toJson (form : SignupForm) : Json.Value :=
  .object [("email", .text form.email), ("password", .text form.password),
    ("name", .text form.name)]

def signupRequest (form : SignupForm) : Request where
  method := "POST"
  target := "/signup"
  headers := [("content-type", "application/json")]
  body := Utf8.encode form.toJson.toText

theorem signupRequest_body (form : SignupForm) :
    (signupRequest form).body = Utf8.encode form.toJson.toText := by
  rw [signupRequest]

theorem SignupForm.ofBody_written (form : SignupForm) :
    Form.ofBody SignupForm (Utf8.encode form.toJson.toText) = .ok form := by
  have hread : Json.readLeadingRecord (Form.shape SignupForm) (Utf8.encode form.toJson.toText) =
      .ok (form.email, form.password, form.name, ()) :=
    Json.readLeadingRecord_written (by decide) ⟨trivial, trivial, trivial, trivial⟩ rfl
  rw [Form.ofBody, hread]
  rfl

theorem path_of_target {r : Request} (h : r.target = "/signup") : r.path = "/signup" := by
  unfold Request.path
  rw [h]
  decide

theorem signsUp_signupRequest (hsize : (signupRequest form).body.length ≤ 2097152)
    (hemail : Email.isAddress form.email = true)
    (hname : ∃ c ∈ form.name.toList, Text.isBlank c = false) (hpassword : 8 ≤ form.password.length)
    (hfree : ∀ entry ∈ rows.entries, entry.1 ≠ form.email) :
    (signupRequest form).SignsUp rows form where
  method := rfl
  path := path_of_target rfl
  json := Request.isJson_iff.mp (isJson_of_headers rfl)
  size := hsize
  body := by
    rw [signupRequest_body]
    exact SignupForm.ofBody_written form
  email := hemail
  name := hname
  password := hpassword
  free := hfree

/-- Ada signs up beside Bob. -/
theorem ada_created_beside_bob :
    let now : Time.Instant := ⟨0, 0, by decide, by decide, by decide⟩
    let m : Moment := ⟨now, ⟨.replicate 16 0, .replicate 16 0⟩, .inMemory⟩
    let bob : User := ⟨⟨.replicate 16 1⟩, "bob@example.com", [], "Bob", .frozen, now⟩
    let rows : Rows := ⟨[("bob@example.com", bob)]⟩
    let site : Site Rows Draft := ⟨.memory, .plain, fun id now => .ok ⟨id.toText, now⟩⟩
    let form : SignupForm := ⟨"ada@example.com", "12345678", " Ada "⟩
    (signupRequest form).SignsUp rows form ∧
      (site.respond m (signupRequest form) rows).1.status = 201 ∧
      ∃ ada : User, ada.name = " Ada " ∧ ada.status = .active ∧
        (site.respond m (signupRequest form) rows).2.entries =
          [("bob@example.com", bob), ("ada@example.com", ada)] := by
  intro now m bob rows site form
  have hsigns : (signupRequest form).SignsUp rows form :=
    signsUp_signupRequest (by decide) (by decide) ⟨'A', by decide, by decide⟩ (by decide)
      (by decide)
  obtain ⟨hstatus, hcreates, -⟩ :=
    created_iff Hasher.plain_alwaysHashes site.issuer m (signupRequest form) rows
  obtain ⟨ada, -, hname, hactive, hentries, -⟩ := hcreates form hsigns
  exact ⟨hsigns, hstatus.mpr ⟨form, hsigns⟩, ada, hname, hactive, hentries⟩

end Http

end UserAccounts
