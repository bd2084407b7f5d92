/-
# Where requests lead, and what is read of them

A request asks for a route when its path leads there and its method is one of the
route's (`Request.Asks`); then it is answered as the route answers. Any other request
is turned away, whatever else it holds and whatever is kept (`respond_turnedAway`).

A form is read of a request exactly if four things hold one after another
(`readForm_eq_ok_iff`); if one of them does not, the input is at fault, and there are
no details (`readForm_eq_error`).

What is done with a form is signing up or logging in (`Site.signupWith`,
`Site.loginWith`), and the answer is that of its outcome (`respondForm_comes`).

Key definitions: `Request.Asks`, `Request.turnedAway`, `Site.answer`, `respondForm`,
`Site.signupWith`, `Site.loginWith`, `Site.converse`.
Key theorems: `respond_of_asks`, `respond_turnedAway`, `readForm_eq_ok_iff`,
`readForm_eq_error`, `respondForm_comes`.
-/
import UserAccounts.Http.Router

namespace UserAccounts.Http

/-! ### Routes -/

theorem Route.ofPath?_eq_some_iff {path : String} {route : Route} :
    Route.ofPath? path = some route ↔ path = match route with
      | .health => "/health"
      | .signup => "/signup"
      | .login => "/v1/users/login" := by
  constructor
  · intro h
    unfold Route.ofPath? at h
    split at h
    · obtain rfl := Option.some.inj h
      assumption
    · split at h
      · obtain rfl := Option.some.inj h
        assumption
      · split at h
        · obtain rfl := Option.some.inj h
          assumption
        · cases h
  · rintro rfl
    cases route <;> decide

/-- The request asks for the route: its path leads there, and its method is one of the route's. -/
structure Request.Asks (r : Request) (route : Route) : Prop where
  path : Route.ofPath? r.path = some route
  method : r.method ∈ route.methods

theorem Request.Asks.unique {r : Request} {route other : Route} (h : r.Asks route)
    (h' : r.Asks other) : route = other :=
  Option.some.inj (h.path.symm.trans h'.path)

/-- The answer to a request that asks for no route. -/
def Request.turnedAway (r : Request) : Response :=
  match Route.ofPath? r.path with
  | none => { status := 404 }
  | some route => { status := 405, allow := some (",".intercalate route.methods) }

theorem Request.turnedAway_status (r : Request) :
    r.turnedAway.status = 404 ∨ r.turnedAway.status = 405 := by
  unfold Request.turnedAway
  cases Route.ofPath? r.path with
  | none => exact .inl rfl
  | some route => exact .inr rfl

namespace Site

variable {σ δ : Type} {r : Request} {route : Route}

/-- The answer of a route, and what is kept then. -/
def answer (site : Site σ δ) (m : Moment) (r : Request) (s : σ) : Route → Response × σ
  | .health =>
    let response := healthResponse m.health
    (if r.method = "HEAD" then { response with body := "" } else response, s)
  | .signup => site.respondSignup m r s
  | .login => site.respondLogin m r s

theorem respond_of_asks (site : Site σ δ) (h : r.Asks route) (m : Moment) (s : σ) :
    site.respond m r s = site.answer m r s route := by
  have hmethod : (!route.methods.contains r.method) = false := by
    rw [List.contains_iff_mem.mpr h.method]
    rfl
  unfold respond
  rw [h.path]
  simp only [hmethod, Bool.false_eq_true, if_false]
  cases route <;> rfl

theorem respond_turnedAway (site : Site σ δ) (h : ∀ route, ¬ r.Asks route) (m : Moment) (s : σ) :
    site.respond m r s = (r.turnedAway, s) := by
  unfold respond Request.turnedAway
  cases hpath : Route.ofPath? r.path with
  | none => rfl
  | some route =>
    have hmethod : (!route.methods.contains r.method) = true := by
      rw [Bool.not_eq_true', Bool.eq_false_iff]
      intro hmem
      exact h route ⟨hpath, List.contains_iff_mem.mp hmem⟩
    simp only [hmethod, if_true]

end Site

/-! ### Forms -/

section

variable {α : Type} [Form α] {r : Request} {form : α} {failure : Failure}

/-- The body is said to be JSON by the first header that says what it is. -/
theorem Request.isJson_iff :
    r.isJson = true ↔ ∃ value type, r.header? "content-type" = some value ∧
      MediaType.read value.toList = some type ∧ type.isJson = true := by
  unfold Request.isJson
  rw [Option.any_eq_true]
  constructor
  · rintro ⟨type, hread, hjson⟩
    obtain ⟨value, hvalue, htype⟩ := Option.bind_eq_some_iff.mp hread
    exact ⟨value, type, hvalue, htype, hjson⟩
  · rintro ⟨value, type, hvalue, htype, hjson⟩
    exact ⟨type, Option.bind_eq_some_iff.mpr ⟨value, hvalue, htype⟩, hjson⟩

theorem readBody_eq_ok_iff :
    readBody α r = .ok form ↔
      r.isJson = true ∧ r.body.length ≤ mostBodyBytes ∧ Form.ofBody α r.body = .ok form := by
  unfold readBody
  cases hjson : r.isJson with
  | false => simp
  | true =>
    by_cases hsize : mostBodyBytes < r.body.length
    · have hnot : ¬ r.body.length ≤ mostBodyBytes := Nat.not_le_of_lt hsize
      simp [hsize, hnot]
    · have hle : r.body.length ≤ mostBodyBytes := Nat.le_of_not_lt hsize
      simp only [Bool.not_true, Bool.false_eq_true, if_false, hsize, hle, true_and]
      cases Form.ofBody α r.body with
      | error problem => exact ⟨nofun, nofun⟩
      | ok read =>
        constructor
        · intro h
          rw [Except.ok.inj h]
        · intro h
          rw [Except.ok.inj h]
          rfl

theorem readForm_of_read (h : readBody α r = .ok form) :
    readForm α r =
      if (Form.errors form).isEmpty then .ok form
      else .error (.invalid { message := errorText (Form.errors form) }) := by
  unfold readForm
  rw [h]

theorem readForm_of_fault {fault : BodyFault} (h : readBody α r = .error fault) :
    readForm α r = .error (.invalid { message := fault.message }) := by
  unfold readForm
  rw [h]

/-- A form is read exactly of a body that is said to be JSON, is not too large and spells the form,
with nothing wrong in its fields. -/
theorem readForm_eq_ok_iff :
    readForm α r = .ok form ↔ r.isJson = true ∧ r.body.length ≤ mostBodyBytes ∧
      Form.ofBody α r.body = .ok form ∧ (Form.errors form).isEmpty = true := by
  constructor
  · intro h
    cases hbody : readBody α r with
    | error fault =>
      rw [readForm_of_fault hbody] at h
      cases h
    | ok read =>
      rw [readForm_of_read hbody] at h
      split at h
      · rename_i hfields
        obtain rfl := Except.ok.inj h
        obtain ⟨hjson, hsize, hread⟩ := readBody_eq_ok_iff.mp hbody
        exact ⟨hjson, hsize, hread, hfields⟩
      · cases h
  · rintro ⟨hjson, hsize, hread, hfields⟩
    rw [readForm_of_read (readBody_eq_ok_iff.mpr ⟨hjson, hsize, hread⟩), if_pos hfields]

theorem readForm_eq_error (h : readForm α r = .error failure) :
    ∃ message, failure = .invalid { message } := by
  cases hbody : readBody α r with
  | error fault =>
    rw [readForm_of_fault hbody] at h
    exact ⟨_, (Except.error.inj h).symm⟩
  | ok read =>
    rw [readForm_of_read hbody] at h
    split at h
    · cases h
    · exact ⟨_, (Except.error.inj h).symm⟩

end

/-! ### Fields -/

theorem fieldErrors_eq_nil_iff {field : String} {faults : List FieldError} :
    fieldErrors field faults = [] ↔ faults = [] := by
  unfold fieldErrors
  cases faults <;> simp

theorem emailErrors_eq_nil_iff {email : String} :
    emailErrors email = [] ↔ Email.isAddress email = true := by
  unfold emailErrors
  rw [fieldErrors_eq_nil_iff]
  cases Email.isAddress email <;> simp

theorem requiredErrors_eq_nil_iff {field value : String} :
    requiredErrors field value = [] ↔ value ≠ "" := by
  unfold requiredErrors
  rw [fieldErrors_eq_nil_iff]
  by_cases h : value = "" <;> simp [h]

/-! ### Forms that are done -/

section

variable {α β σ : Type} [Form α] {run : α → σ → Except Failure β × σ} {status : Nat}
  {body : β → Json.Value} {r : Request} {s s' : σ} {form : α} {output : β} {failure : Failure}

/-- The answer to a request with a form: that of what is done with the form, if it is read. -/
def respondForm (run : α → σ → Except Failure β × σ) (status : Nat) (body : β → Json.Value)
    (r : Request) (s : σ) : Response × σ :=
  match readForm α r with
  | .error failure => (failureResponse failure, s)
  | .ok form =>
    match run form s with
    | (.error failure, s) => (failureResponse failure, s)
    | (.ok output, s) => (.json status (body output), s)

theorem respondForm_unread (h : readForm α r = .error failure) :
    respondForm run status body r s = (failureResponse failure, s) := by
  unfold respondForm
  rw [h]

theorem respondForm_of_error (hform : readForm α r = .ok form)
    (h : run form s = (.error failure, s')) :
    respondForm run status body r s = (failureResponse failure, s') := by
  unfold respondForm
  rw [hform]
  simp only [h]

theorem respondForm_of_ok (hform : readForm α r = .ok form) (h : run form s = (.ok output, s')) :
    respondForm run status body r s = (.json status (body output), s') := by
  unfold respondForm
  rw [hform]
  simp only [h]

theorem failureResponse_status_ne (failure : Failure) {status : Nat} (h : status < 400) :
    (failureResponse failure).status ≠ status := by
  have hle : 400 ≤ (failureResponse failure).status := by
    cases failure <;> exact Nat.le_of_ble_eq_true rfl
  omega

theorem respondForm_comes (run : α → σ → Except Failure β × σ) (status : Nat)
    (body : β → Json.Value) (r : Request) (s : σ) :
    (∃ form output, readForm α r = .ok form ∧ (run form s).1 = .ok output ∧
      (respondForm run status body r s).1 = .json status (body output)) ∨
    ∃ failure, (readForm α r = .error failure ∨
        ∃ form, readForm α r = .ok form ∧ (run form s).1 = .error failure) ∧
      (respondForm run status body r s).1 = failureResponse failure := by
  cases hform : readForm α r with
  | error failure =>
    rw [respondForm_unread hform]
    exact .inr ⟨failure, .inl rfl, rfl⟩
  | ok form =>
    rcases hdone : run form s with ⟨failure | output, s'⟩
    · rw [respondForm_of_error hform hdone]
      exact .inr ⟨failure, .inr ⟨form, rfl, by rw [hdone]⟩, rfl⟩
    · rw [respondForm_of_ok hform hdone]
      exact .inl ⟨form, output, rfl, by rw [hdone], rfl⟩

theorem respondForm_kept (h : ∀ form, (run form s).2 = s) :
    (respondForm run status body r s).2 = s := by
  cases hform : readForm α r with
  | error failure => rw [respondForm_unread hform]
  | ok form =>
    have hkept := h form
    rcases hdone : run form s with ⟨failure | output, s'⟩
    · rw [respondForm_of_error hform hdone]
      rwa [hdone] at hkept
    · rw [respondForm_of_ok hform hdone]
      rwa [hdone] at hkept

end

namespace Site

variable {σ δ : Type}

def signupWith (site : Site σ δ) (m : Moment) (form : SignupForm) (s : σ) :
    Except Failure SignupOutput × σ :=
  UserAccounts.signup site.persistence site.hasher m.random
    ⟨form.email, form.password, form.name⟩ m.now s

def loginWith (site : Site σ δ) (m : Moment) (form : LoginForm) (s : σ) :
    Except Failure LoginOutput × σ :=
  UserAccounts.login site.persistence site.hasher site.issuer ⟨form.email, form.password⟩ m.now s

theorem answer_signup (site : Site σ δ) (m : Moment) (r : Request) (s : σ) :
    site.answer m r s .signup = respondForm (site.signupWith m) 201 signupBody r s := by
  show site.respondSignup m r s = _
  unfold respondSignup respondForm signupWith
  cases readForm SignupForm r with
  | error failure => rfl
  | ok form =>
    simp only
    rcases UserAccounts.signup _ _ _ _ _ _ with ⟨failure | output, s'⟩
    · rfl
    · rfl

theorem answer_login (site : Site σ δ) (m : Moment) (r : Request) (s : σ) :
    site.answer m r s .login = respondForm (site.loginWith m) 200 loginBody r s := by
  show site.respondLogin m r s = _
  unfold respondLogin respondForm loginWith
  cases readForm LoginForm r with
  | error failure => rfl
  | ok form =>
    simp only
    rcases UserAccounts.login _ _ _ _ _ _ with ⟨failure | output, s'⟩
    · rfl
    · rfl

end Site

/-! ### Requests one after another -/

/-- A request at some moment, and what it was answered. -/
structure Exchange where
  moment : Moment
  request : Request
  response : Response

/-- What is answered to requests one after another, and what is kept in the end. -/
def Site.converse {σ δ : Type} (site : Site σ δ) :
    List (Moment × Request) → σ → List Exchange × σ
  | [], s => ([], s)
  | (moment, request) :: calls, s =>
    let (response, s) := site.respond moment request s
    let (exchanges, s) := site.converse calls s
    (⟨moment, request, response⟩ :: exchanges, s)

theorem Site.converse_cons {σ δ : Type} (site : Site σ δ) (m : Moment) (r : Request)
    (calls : List (Moment × Request)) (s : σ) :
    site.converse ((m, r) :: calls) s =
      (⟨m, r, (site.respond m r s).1⟩ :: (site.converse calls (site.respond m r s).2).1,
        (site.converse calls (site.respond m r s).2).2) :=
  rfl

end UserAccounts.Http
