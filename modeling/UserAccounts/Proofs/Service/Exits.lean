/-
# The exits of signing up and of logging in

Each is a row of checks, and the first that fails decides what comes of it. Signing
up is checked for the name, the password, the hasher, and last in the transaction,
where adding the user may fail in a way of its own (`Persistence.memoryWith`) or
because the address is taken (`SignupInput.Fails`). Past all of them exactly one row
is added (`signup_exact`); before that nothing is written.

Logging in is checked for the user who is looked for, the status, the length of the
password, the hasher and the issuer (`LoginInput.Fails`). What a check asks the hasher
or the issuer is all that the outcome depends on: another hasher that answers this one
question alike makes no difference, and none at all where it is not asked
(`authenticate_hasher`, `authenticate_issuer`). Nothing is written on any path
(`login_exact`).

For either, success and the failures are described side by side; that there is always
one of them (`succeeds_or_fails`) turns the descriptions into equivalences
(`outcome_iff`).

What a hasher refuses is passed on as it is: a fault that it finds with the password is
told as the input's (`common_password_told`), and whatever else keeps it from hashing as a
failure inside.

Key definitions: `Persistence.memoryWith`, `SignupInput.Succeeds`, `SignupInput.Fails`,
`LoginInput.Succeeds`, `LoginInput.Fails`.
Key theorems: `signup_exact`, `common_password_told`, `login_exact`, `not_found_by_issuer`.
-/
import UserAccounts.Proofs.Service.Login
import UserAccounts.Proofs.Service.Signup
import UserAccounts.Proofs.Settings.Lookup
import UserAccounts.Proofs.Sql.Faithful

namespace UserAccounts

/-! ### Memory that fails -/

/-- How adding a user within a transaction fails, if it does: for what, and with what drafted. -/
abbrev CreateFault := User → Draft → Rows → Option (Failure × Draft)

/-- Users in memory, where adding one within a transaction may fail for another reason too. -/
def Persistence.memoryWith (fault : CreateFault) : Persistence Rows Draft :=
  { memory with
    createIn := fun user draft rows =>
      match fault user draft rows with
      | some (failure, draft) => (.error failure, draft, rows)
      | none => memory.createIn user draft rows }

example : Persistence.memoryWith (fun _ _ _ => none) = .memory := rfl

example (failure : Failure) :
    .memoryWith (fun _ draft _ => some (failure, draft)) = Persistence.memory.createFailing failure :=
  rfl

section

variable {fault : CreateFault} {user : User} {rows : Rows} {failure : Failure} {draft : Draft}

theorem memoryWith_createAlone_of_fault (h : fault user .empty rows = some (failure, draft)) :
    (Persistence.memoryWith fault).createAlone user rows = (.error failure, rows) := by
  simp only [Persistence.createAlone, Persistence.memoryWith, Persistence.memory_start, h]
  rfl

theorem memoryWith_createAlone_of_none (h : fault user .empty rows = none) :
    (Persistence.memoryWith fault).createAlone user rows =
      if rows.contains user.email then (.error (emailTaken user), rows)
      else (.ok user, rows.extend [user]) := by
  rw [← memory_createAlone]
  simp only [Persistence.createAlone, Persistence.memoryWith, Persistence.memory_start, h]

end

/-! ### Signing up -/

section

variable (fault : CreateFault) (hasher : Hasher) (random : Randomness) (now : Time.Instant)
  (rows : Rows)

namespace SignupInput

variable (input : SignupInput)

/-- What the hasher comes to with the password of the input, which is long enough. -/
def Hashes (outcome : Except Refusal Bytes) : Prop :=
  ∃ password : Password, password.text = input.password ∧
    hasher.hash random.salt password = outcome

/-- Nothing stands in the way, and the password is hashed to these bytes. -/
structure Succeeds (hash : Bytes) : Prop where
  name : ∃ c ∈ input.name.toList, Text.isBlank c = false
  password : 8 ≤ input.password.length
  hashed : input.Hashes hasher random (.ok hash)
  created : fault (input.user random hash now) .empty rows = none
  free : ∀ entry ∈ rows.entries, entry.1 ≠ input.email

/-- The first check that fails is the one for this failure. -/
inductive Fails : Failure → Prop where
  | name (hname : ∀ c ∈ input.name.toList, Text.isBlank c = true) :
    Fails (.invalid { message := "name is required" })
  | password (hname : ∃ c ∈ input.name.toList, Text.isBlank c = false)
      (hshort : input.password.length < 8) :
    Fails (.invalid { message := "password must be at least 8 characters long" })
  | hasher {refusal : Refusal} (hname : ∃ c ∈ input.name.toList, Text.isBlank c = false)
      (hhash : input.Hashes hasher random (.error refusal)) :
    Fails (.ofRefusal refusal)
  | store {hash : Bytes} {failure : Failure} {draft : Draft}
      (hname : ∃ c ∈ input.name.toList, Text.isBlank c = false)
      (hhash : input.Hashes hasher random (.ok hash))
      (hfault : fault (input.user random hash now) .empty rows = some (failure, draft)) :
    Fails failure
  | taken {hash : Bytes} (hname : ∃ c ∈ input.name.toList, Text.isBlank c = false)
      (hhash : input.Hashes hasher random (.ok hash))
      (hfault : fault (input.user random hash now) .empty rows = none)
      (htaken : ∃ entry ∈ rows.entries, entry.1 = input.email) :
    Fails (.internal (.emailTaken input.email))

end SignupInput

variable {fault hasher random now rows} {input : SignupInput}

theorem SignupInput.Hashes.password {outcome : Except Refusal Bytes}
    (h : input.Hashes hasher random outcome) : 8 ≤ input.password.length := by
  obtain ⟨password, htext, -⟩ := h
  rw [← htext]
  exact password.least_le_length

theorem SignupInput.Hashes.violation? {outcome : Except Refusal Bytes}
    (h : input.Hashes hasher random outcome)
    (hname : ∃ c ∈ input.name.toList, Text.isBlank c = false) : input.violation? = none :=
  violation?_eq_none_iff.mpr ⟨allBlank_eq_false_iff.mpr hname, h.password⟩

theorem SignupInput.Hashes.prepare_ok {hash : Bytes} (h : input.Hashes hasher random (.ok hash))
    (hname : ∃ c ∈ input.name.toList, Text.isBlank c = false) :
    prepare hasher random input now = .ok (input.user random hash now) := by
  have hvalid := h.violation? hname
  obtain ⟨password, htext, hhash⟩ := h
  exact prepare_eq_ok_iff.mpr ⟨hvalid, password, hash, htext, hhash, rfl⟩

theorem SignupInput.Hashes.prepare_error {refusal : Refusal}
    (h : input.Hashes hasher random (.error refusal))
    (hname : ∃ c ∈ input.name.toList, Text.isBlank c = false) :
    prepare hasher random input now = .error (.ofRefusal refusal) := by
  have hvalid := h.violation? hname
  obtain ⟨password, htext, hhash⟩ := h
  rw [prepare_of_valid hvalid htext, hhash]

theorem signup_of_succeeds {hash : Bytes}
    (h : input.Succeeds fault hasher random now rows hash) :
    signup (.memoryWith fault) hasher random input now rows =
      (.ok (.ofUser (input.user random hash now)), rows.extend [input.user random hash now]) := by
  have hfree : rows.contains (input.user random hash now).email = false :=
    Rows.contains_eq_false_iff.mpr h.free
  have hadd := memoryWith_createAlone_of_none h.created
  rw [if_neg (by rw [hfree]; decide)] at hadd
  exact signup_of_added (h.hashed.prepare_ok h.name) hadd

theorem signup_of_fails {failure : Failure}
    (h : input.Fails fault hasher random now rows failure) :
    signup (.memoryWith fault) hasher random input now rows = (.error failure, rows) := by
  cases h with
  | name hname =>
    have hblank : Text.allBlank input.name = true := List.all_eq_true.mpr hname
    exact signup_of_unprepared (prepare_of_violation (if_pos hblank)) rows
  | password hname hshort =>
    have hblank : ¬ Text.allBlank input.name = true :=
      Bool.eq_false_iff.mp (allBlank_eq_false_iff.mpr hname)
    have hless : input.password.length < leastPasswordLength := hshort
    have hviolation : input.violation? = some .passwordTooShort := by
      unfold SignupInput.violation?
      rw [if_neg hblank, if_pos hless]
    exact signup_of_unprepared (prepare_of_violation hviolation) rows
  | hasher hname hhash => exact signup_of_unprepared (hhash.prepare_error hname) rows
  | store hname hhash hfault =>
    exact signup_of_added (hhash.prepare_ok hname) (memoryWith_createAlone_of_fault hfault)
  | @taken hash hname hhash hfault htaken =>
    have hcontains : rows.contains (input.user random hash now).email = true := by
      obtain ⟨entry, hmem, hkey⟩ := htaken
      exact List.any_eq_true.mpr ⟨entry, hmem, beq_iff_eq.mpr hkey⟩
    have hadd := memoryWith_createAlone_of_none hfault
    rw [if_pos hcontains] at hadd
    exact signup_of_added (hhash.prepare_ok hname) hadd

theorem SignupInput.succeeds_or_fails (fault : CreateFault) (hasher : Hasher)
    (random : Randomness) (now : Time.Instant) (rows : Rows) (input : SignupInput) :
    (∃ hash, input.Succeeds fault hasher random now rows hash) ∨
      ∃ failure, input.Fails fault hasher random now rows failure := by
  cases hblank : Text.allBlank input.name with
  | true => exact .inr ⟨_, .name (List.all_eq_true.mp hblank)⟩
  | false =>
    have hname := allBlank_eq_false_iff.mp hblank
    by_cases hshort : input.password.length < 8
    · exact .inr ⟨_, .password hname hshort⟩
    have hlong : 8 ≤ input.password.length := Nat.le_of_not_lt hshort
    cases hhash : hasher.hash random.salt ⟨input.password, hlong⟩ with
    | error refusal => exact .inr ⟨_, .hasher hname ⟨_, rfl, hhash⟩⟩
    | ok hash =>
      cases hfault : fault (input.user random hash now) .empty rows with
      | some met => exact .inr ⟨met.1, .store hname ⟨_, rfl, hhash⟩ hfault⟩
      | none =>
        cases hcontains : rows.contains input.email with
        | false =>
          exact .inl ⟨hash, hname, hlong, ⟨_, rfl, hhash⟩, hfault,
            Rows.contains_eq_false_iff.mp hcontains⟩
        | true =>
          obtain ⟨entry, hmem, hkey⟩ := List.any_eq_true.mp hcontains
          exact .inr ⟨_, .taken hname ⟨_, rfl, hhash⟩ hfault ⟨entry, hmem, beq_iff_eq.mp hkey⟩⟩

theorem signup_outcome_iff :
    let outcome := (signup (.memoryWith fault) hasher random input now rows).1
    (∀ output, outcome = .ok output ↔ ∃ hash, input.Succeeds fault hasher random now rows hash ∧
      output = .ofUser (input.user random hash now)) ∧
    ∀ failure, outcome = .error failure ↔ input.Fails fault hasher random now rows failure := by
  intro outcome
  apply outcome_iff
  · rintro output ⟨hash, h, rfl⟩
    exact congrArg Prod.fst (signup_of_succeeds h)
  · intro failure h
    exact congrArg Prod.fst (signup_of_fails h)
  · rcases input.succeeds_or_fails fault hasher random now rows with ⟨hash, h⟩ | hfails
    · exact .inl ⟨_, hash, h, rfl⟩
    · exact .inr hfails

/-- **Signing up is exact.** It succeeds if and only if nothing stands in its way; then one row is
added, of the user made from the input, and the output tells of this user. It fails if and only if a
check fails, with the failure of the first that does, the hasher's own if that is the one, and then
the rows are what they were. -/
theorem signup_exact (fault : CreateFault) (hasher : Hasher) (random : Randomness)
    (input : SignupInput) (now : Time.Instant) (rows : Rows) :
    let result := signup (.memoryWith fault) hasher random input now rows
    ((∃ output, result.1 = .ok output) ↔
      ∃ hash, input.Succeeds fault hasher random now rows hash) ∧
    (∀ hash, input.Succeeds fault hasher random now rows hash →
      result.1 = .ok ⟨.ofRandom random.id, input.name, input.email, .active, now⟩ ∧
      result.2.entries = rows.entries ++
        [(input.email, ⟨.ofRandom random.id, input.email, hash, input.name, .active, now⟩)]) ∧
    (∀ failure, result.1 = .error failure ↔
      input.Fails fault hasher random now rows failure) ∧
    ∀ failure, result.1 = .error failure → result.2 = rows := by
  intro result
  obtain ⟨hok, herror⟩ : _ ∧ ∀ failure, result.1 = .error failure ↔ _ := signup_outcome_iff
  refine ⟨⟨?_, ?_⟩, ?_, herror, ?_⟩
  · rintro ⟨output, he⟩
    obtain ⟨hash, h, -⟩ := (hok output).mp he
    exact ⟨hash, h⟩
  · rintro ⟨hash, h⟩
    exact ⟨_, (hok _).mpr ⟨hash, h, rfl⟩⟩
  · intro hash h
    have hresult : result = _ := signup_of_succeeds h
    rw [hresult]
    exact ⟨rfl, rfl⟩
  · intro failure he
    have hresult : result = _ := signup_of_fails ((herror failure).mp he)
    rw [hresult]

end

/-- Ada is added to no users, and is refused with a password that is too short. -/
theorem ada_added_or_refused :
    let now : Time.Instant := ⟨0, 0, by decide, by decide, by decide⟩
    let random : Randomness := ⟨.replicate 16 0, .replicate 16 0⟩
    let input : SignupInput := ⟨"ada@example.com", "12345678", "Ada"⟩
    let short : SignupInput := ⟨"ada@example.com", "1234567", "Ada"⟩
    let p := Persistence.memoryWith fun _ _ _ => none
    let hash := Hasher.plainBytes ⟨"12345678", by decide⟩
    (signup p .plain random input now .empty).1 =
        .ok ⟨.ofRandom random.id, "Ada", "ada@example.com", .active, now⟩ ∧
      (signup p .plain random input now .empty).2.entries =
        [("ada@example.com",
          ⟨.ofRandom random.id, "ada@example.com", hash, "Ada", .active, now⟩)] ∧
      (signup p .plain random short now .empty).1 =
        .error (.invalid { message := "password must be at least 8 characters long" }) ∧
      (signup p .plain random short now .empty).2 = .empty := by
  intro now random input short p hash
  have hname : ∃ c ∈ "Ada".toList, Text.isBlank c = false := ⟨'A', by decide, by decide⟩
  have hsucceeds : input.Succeeds (fun _ _ _ => none) .plain random now .empty hash :=
    ⟨hname, by decide, ⟨_, rfl, rfl⟩, rfl, fun _ hmem => by cases hmem⟩
  obtain ⟨htold, hrow⟩ :=
    (signup_exact (fun _ _ _ => none) .plain random input now .empty).2.1 hash hsucceeds
  obtain ⟨-, -, hfails, hkept⟩ := signup_exact (fun _ _ _ => none) .plain random short now .empty
  have hshort := (hfails _).mpr (.password hname (by decide))
  exact ⟨htold, hrow, hshort, hkept _ hshort⟩

/-- A hasher that finds fault with a password that is long enough is told of as the input's fault
is, with its own words. -/
theorem common_password_told :
    let now : Time.Instant := ⟨1768694400, 0, by decide, by decide, by decide⟩
    let random : Randomness := ⟨.replicate 16 0, .replicate 16 0⟩
    let input : SignupInput := ⟨"ada@example.com", "12345678", "Ada"⟩
    let common : Refusal := .invalid { message := "password is too common" }
    let hasher : Hasher := ⟨fun _ _ => .error common, fun _ _ => .error common⟩
    ∃ failure, signup .memory hasher random input now .empty = (.error failure, .empty) ∧
      failure = .invalid { message := "password is too common" } ∧ failure.isInternal = false := by
  intro now random input common hasher
  have hname : ∃ c ∈ "Ada".toList, Text.isBlank c = false := ⟨'A', by decide, by decide⟩
  have hfails : input.Fails (fun _ _ _ => none) hasher random now .empty (.ofRefusal common) :=
    .hasher hname ⟨⟨"12345678", by decide⟩, rfl, rfl⟩
  exact ⟨.ofRefusal common, signup_of_fails hfails, rfl, rfl⟩

/-! ### Logging in -/

section

variable (hasher : Hasher) (issuer : Issuer) (found : Except Failure User) (now : Time.Instant)

namespace LoginInput

variable (input : LoginInput)

/-- What the hasher answers when the password of the input, which is long enough, is compared with
the user's hash. -/
def Compares (user : User) (answer : Except Refusal Bool) : Prop :=
  ∃ password : Password, password.text = input.password ∧
    hasher.verify user.passwordHash password = answer

/-- An active user was found whose password this is, and there is a token for the user. -/
structure Succeeds (user : User) (token : AccessToken) : Prop where
  found : found = .ok user
  active : user.status = .active
  password : 8 ≤ input.password.length
  compared : input.Compares hasher user (.ok true)
  issued : issuer user.id now = .ok token

/-- The first check that fails is the one for this failure. -/
inductive Fails : Failure → Prop where
  | unknown (hfound : found = .error .notFound) : Fails .invalidCredential
  | lookup {failure : Failure} (hfound : found = .error failure) (hother : failure ≠ .notFound) :
    Fails failure
  | inactive {user : User} (hfound : found = .ok user) (hstatus : user.status ≠ .active) :
    Fails .invalidCredential
  | password {user : User} (hfound : found = .ok user) (hstatus : user.status = .active)
      (hshort : input.password.length < 8) :
    Fails (.invalid { message := "password must be at least 8 characters long" })
  | hasher {user : User} {refusal : Refusal} (hfound : found = .ok user)
      (hstatus : user.status = .active) (hcompare : input.Compares hasher user (.error refusal)) :
    Fails (.ofRefusal refusal)
  | mismatch {user : User} (hfound : found = .ok user) (hstatus : user.status = .active)
      (hcompare : input.Compares hasher user (.ok false)) :
    Fails .invalidCredential
  | issuer {user : User} {failure : Failure} (hfound : found = .ok user)
      (hstatus : user.status = .active) (hcompare : input.Compares hasher user (.ok true))
      (hissue : issuer user.id now = .error failure) :
    Fails failure

end LoginInput

variable {hasher issuer found now} {input : LoginInput}

theorem LoginInput.Compares.compare {user : User} {answer : Except Refusal Bool}
    (h : input.Compares hasher user answer) :
    user.compare hasher input.password = answer := by
  obtain ⟨password, htext, hverify⟩ := h
  rw [user.compare_of_long hasher htext, hverify]

theorem checkCredentials_of_active {user : User} (h : user.status = .active) (password : String) :
    checkCredentials hasher user password =
      match user.compare hasher password with
      | .error refusal => .error (.ofRefusal refusal)
      | .ok false => .error .invalidCredential
      | .ok true => .ok () := by
  unfold checkCredentials
  exact if_neg fun hne => hne h

theorem authenticate_of_unchecked {user : User} {failure : Failure}
    (h : checkCredentials hasher user input.password = .error failure) :
    authenticate hasher issuer (.ok user) input.password now = .error failure := by
  unfold authenticate
  simp only [h]

theorem authenticate_of_succeeds {user : User} {token : AccessToken}
    (h : input.Succeeds hasher issuer found now user token) :
    authenticate hasher issuer found input.password now = .ok (.ofUser user token) :=
  authenticate_eq_ok_iff.mpr
    ⟨user, token, h.found, h.active, h.compared.compare, h.issued, rfl⟩

theorem authenticate_of_fails {failure : Failure}
    (h : input.Fails hasher issuer found now failure) :
    authenticate hasher issuer found input.password now = .error failure := by
  cases h with
  | unknown hfound => rw [hfound, authenticate]
  | lookup hfound hother =>
    rw [hfound, authenticate]
    exact hother
  | inactive hfound hstatus =>
    rw [hfound]
    exact authenticate_of_unchecked (if_pos hstatus)
  | @password user hfound hstatus hshort =>
    rw [hfound]
    apply authenticate_of_unchecked
    rw [checkCredentials_of_active hstatus, user.compare_of_short hasher hshort]
    rfl
  | hasher hfound hstatus hcompare =>
    rw [hfound]
    apply authenticate_of_unchecked
    rw [checkCredentials_of_active hstatus, hcompare.compare]
  | mismatch hfound hstatus hcompare =>
    rw [hfound]
    apply authenticate_of_unchecked
    rw [checkCredentials_of_active hstatus, hcompare.compare]
  | issuer hfound hstatus hcompare hissue =>
    have hcheck := checkCredentials_eq_ok_iff.mpr ⟨hstatus, hcompare.compare⟩
    rw [hfound]
    unfold authenticate
    simp only [hcheck, hissue]

theorem LoginInput.succeeds_or_fails (hasher : Hasher) (issuer : Issuer)
    (found : Except Failure User) (now : Time.Instant) (input : LoginInput) :
    (∃ user token, input.Succeeds hasher issuer found now user token) ∨
      ∃ failure, input.Fails hasher issuer found now failure := by
  cases hfound : found with
  | error failure =>
    by_cases hunknown : failure = .notFound
    · exact .inr ⟨_, .unknown (congrArg Except.error hunknown)⟩
    · exact .inr ⟨_, .lookup rfl hunknown⟩
  | ok user =>
    by_cases hstatus : user.status = .active
    · by_cases hshort : input.password.length < 8
      · exact .inr ⟨_, .password rfl hstatus hshort⟩
      have hlong : 8 ≤ input.password.length := Nat.le_of_not_lt hshort
      cases hverify : hasher.verify user.passwordHash ⟨input.password, hlong⟩ with
      | error refusal => exact .inr ⟨_, .hasher rfl hstatus ⟨_, rfl, hverify⟩⟩
      | ok fits =>
        cases fits with
        | false => exact .inr ⟨_, .mismatch rfl hstatus ⟨_, rfl, hverify⟩⟩
        | true =>
          cases hissue : issuer user.id now with
          | error failure => exact .inr ⟨_, .issuer rfl hstatus ⟨_, rfl, hverify⟩ hissue⟩
          | ok token => exact .inl ⟨user, token, rfl, hstatus, hlong, ⟨_, rfl, hverify⟩, hissue⟩
    · exact .inr ⟨_, .inactive rfl hstatus⟩

theorem authenticate_outcome_iff :
    let outcome := authenticate hasher issuer found input.password now
    (∀ output, outcome = .ok output ↔
      ∃ user token, input.Succeeds hasher issuer found now user token ∧
        output = .ofUser user token) ∧
    ∀ failure, outcome = .error failure ↔ input.Fails hasher issuer found now failure := by
  intro outcome
  apply outcome_iff
  · rintro output ⟨user, token, h, rfl⟩
    exact authenticate_of_succeeds h
  · exact fun failure => authenticate_of_fails
  · rcases input.succeeds_or_fails hasher issuer found now with ⟨user, token, h⟩ | hfails
    · exact .inl ⟨_, user, token, h, rfl⟩
    · exact .inr hfails

/-- Of the checks only the last, the issuer's, can end with nothing found. -/
theorem LoginInput.Fails.exists_user (h : input.Fails hasher issuer found now .notFound) :
    ∃ user, found = .ok user ∧ issuer user.id now = .error .notFound := by
  generalize hf : Failure.notFound = failure at h
  cases h with
  | lookup hfound hother => exact absurd hf.symm hother
  | @hasher user refusal => cases refusal <;> cases hf
  | issuer hfound hstatus hcompare hissue => exact ⟨_, hfound, hissue⟩
  | unknown | inactive | password | mismatch => cases hf

end

/-! ### What is asked -/

section

variable {hasher hasher' : Hasher} {issuer issuer' : Issuer} {found : Except Failure User}
  {given : String} {now : Time.Instant}

/-- All that the outcome takes from the hasher is how it compares the password, if that is long
enough, with the hash of an active user who was found. -/
theorem authenticate_hasher
    (h : ∀ user (password : Password), found = .ok user → user.status = .active →
      password.text = given →
      hasher'.verify user.passwordHash password = hasher.verify user.passwordHash password) :
    authenticate hasher' issuer found given now = authenticate hasher issuer found given now := by
  cases found with
  | error failure => cases failure <;> rfl
  | ok user =>
    have hcheck : checkCredentials hasher' user given = checkCredentials hasher user given := by
      unfold checkCredentials
      by_cases hstatus : user.status = .active
      · have hcompare : user.compare hasher' given = user.compare hasher given := by
          unfold User.compare
          cases hof : Password.of? given with
          | error violation => rfl
          | ok password =>
            simp only [h user password rfl hstatus (Password.of?_eq_ok_iff.mp hof)]
        rw [hcompare]
      · rw [if_pos hstatus, if_pos hstatus]
    unfold authenticate
    simp only [hcheck]

/-- All that the outcome takes from the issuer is what it gives an active user who was found and
whose password the hasher has found right. -/
theorem authenticate_issuer
    (h : ∀ user (password : Password), found = .ok user → user.status = .active →
      password.text = given → hasher.verify user.passwordHash password = .ok true →
      issuer' user.id now = issuer user.id now) :
    authenticate hasher issuer' found given now = authenticate hasher issuer found given now := by
  cases found with
  | error failure => cases failure <;> rfl
  | ok user =>
    unfold authenticate
    cases hcheck : checkCredentials hasher user given with
    | error failure => simp only [hcheck]
    | ok done =>
      obtain ⟨hstatus, hcompare⟩ := checkCredentials_eq_ok_iff.mp hcheck
      obtain ⟨password, htext, hverify⟩ := User.compare_eq_ok_iff.mp hcompare
      simp only [hcheck, h user password rfl hstatus htext hverify]

end

/-! ### The exits of logging in -/

/-- Finding a user sends one statement, which selects. -/
theorem Sql.Connection.find_sends {κ : Type} (c : Connection κ) (email : String) (k : κ) :
    (c.find email k).2 = (c.query (.selectByEmail email) k).2 := by
  unfold Connection.find
  split <;> (rename_i hquery; rw [hquery])

/-- **Logging in is exact.** It succeeds if and only if an active user is found whose password it is
and for whom there is a token, and the output tells of both. It fails if and only if a check fails,
with the failure of the first that does; that nothing was found is told only if the issuer says so.
The hasher and the issuer matter only for what they are asked, and nothing is done but to look for
the user: this leaves memory alone, and sends one selection over a connection, which changes no rows
where it is carried out. -/
theorem login_exact {σ δ : Type} (p : Persistence σ δ) (hasher : Hasher) (issuer : Issuer)
    (input : LoginInput) (now : Time.Instant) (s : σ) :
    let found := (p.find input.email s).1
    let result := login p hasher issuer input now s
    (∀ output, result.1 = .ok output ↔
      ∃ user token, input.Succeeds hasher issuer found now user token ∧
        output = ⟨token.value, token.expiresAt, user.id, user.name, user.email⟩) ∧
    (∀ failure, result.1 = .error failure ↔ input.Fails hasher issuer found now failure) ∧
    (result.1 = .error .notFound →
      ∃ user, found = .ok user ∧ issuer user.id now = .error .notFound) ∧
    (∀ hasher' : Hasher,
      (∀ user (password : Password), found = .ok user → user.status = .active →
        password.text = input.password →
        hasher'.verify user.passwordHash password = hasher.verify user.passwordHash password) →
      login p hasher' issuer input now s = result) ∧
    (∀ issuer' : Issuer,
      (∀ user (password : Password), found = .ok user → user.status = .active →
        password.text = input.password → hasher.verify user.passwordHash password = .ok true →
        issuer' user.id now = issuer user.id now) →
      login p hasher issuer' input now s = result) ∧
    result.2 = (p.find input.email s).2 ∧
    (∀ failure rows, (login .memory hasher issuer input now rows).2 = rows ∧
      (login (.findFailing failure .memory) hasher issuer input now rows).2 = rows) ∧
    ∀ {κ : Type} (c : Sql.Connection κ) (k : κ),
      (login c.persistence hasher issuer input now k).2 =
        (c.query (.selectByEmail input.email) k).2 ∧
      ∀ view rows, c.Faithful view → (view k).seen? = some rows →
        view (login c.persistence hasher issuer input now k).2 = view k := by
  intro found result
  obtain ⟨hok, herror⟩ : _ ∧ ∀ failure, result.1 = .error failure ↔ _ := authenticate_outcome_iff
  refine ⟨hok, herror, fun he => ((herror _).mp he).exists_user, ?_, ?_, rfl,
    fun _ _ => ⟨rfl, rfl⟩, ?_⟩
  · intro hasher' h
    exact congrArg (·, (p.find input.email s).2) (authenticate_hasher h)
  · intro issuer' h
    exact congrArg (·, (p.find input.email s).2) (authenticate_issuer h)
  · intro κ c k
    have hsent : (login c.persistence hasher issuer input now k).2 =
        (c.query (.selectByEmail input.email) k).2 := c.find_sends input.email k
    refine ⟨hsent, ?_⟩
    intro view rows hfaithful hseen
    obtain ⟨answer, k', hquery, hview, -⟩ := hfaithful.select input.email hseen
    rw [hsent, hquery]
    exact hview

/-- Ada is let in. Bob, whose address is unknown, is refused whatever the hasher and the issuer
would say. -/
theorem ada_let_in_bob_refused :
    let now : Time.Instant := ⟨0, 0, by decide, by decide, by decide⟩
    let hash := Hasher.plainBytes ⟨"12345678", by decide⟩
    let ada : User := ⟨⟨.replicate 16 0⟩, "ada@example.com", hash, "Ada", .active, now⟩
    let rows : Rows := ⟨[("ada@example.com", ada)]⟩
    let issuer : Issuer := fun id now => .ok ⟨id.toText, now⟩
    (login .memory .plain issuer ⟨"ada@example.com", "12345678"⟩ now rows).1 =
        .ok ⟨ada.id.toText, now, ada.id, "Ada", "ada@example.com"⟩ ∧
      login .memory .crashing (.failing .notFound) ⟨"bob@example.com", "12345678"⟩ now rows =
        (.error .invalidCredential, rows) := by
  intro now hash ada rows issuer
  have hcompares : LoginInput.Compares .plain ⟨"ada@example.com", "12345678"⟩ ada (.ok true) :=
    ⟨⟨"12345678", by decide⟩, rfl, by decide⟩
  obtain ⟨hok, -⟩ :=
    login_exact .memory .plain issuer ⟨"ada@example.com", "12345678"⟩ now rows
  obtain ⟨-, herror, -, hhasher, -, -, hkept, -⟩ :=
    login_exact .memory .plain (.failing .notFound) ⟨"bob@example.com", "12345678"⟩ now rows
  have hunknown := (herror .invalidCredential).mpr (.unknown rfl)
  refine ⟨(hok _).mpr ⟨ada, ⟨_, now⟩, ⟨rfl, rfl, by decide, hcompares, rfl⟩, rfl⟩, ?_⟩
  rw [hhasher .crashing fun user _ hfound => by cases hfound]
  exact Prod.ext hunknown (hkept .notFound rows).1

/-- An issuer that fails because nothing was found makes logging in fail so. -/
theorem not_found_by_issuer :
    let now : Time.Instant := ⟨1768694400, 0, by decide, by decide, by decide⟩
    let hash := Hasher.plainBytes ⟨"12345678", by decide⟩
    let ada : User := ⟨⟨.replicate 16 0⟩, "ada@example.com", hash, "Ada", .active, now⟩
    (login .memory .plain (.failing .notFound) ⟨"ada@example.com", "12345678"⟩ now
      ⟨[("ada@example.com", ada)]⟩).1 = .error .notFound := by
  intro now hash ada
  have hcompares : LoginInput.Compares .plain ⟨"ada@example.com", "12345678"⟩ ada (.ok true) :=
    ⟨⟨"12345678", by decide⟩, rfl, by decide⟩
  have hfails : LoginInput.Fails .plain (.failing .notFound) (.ok ada) now
      ⟨"ada@example.com", "12345678"⟩ .notFound := .issuer rfl rfl hcompares rfl
  exact authenticate_of_fails hfails

end UserAccounts
