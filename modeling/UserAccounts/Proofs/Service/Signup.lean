/-
# What comes of signing up

An input violates a rule or it does not (`SignupInput.violation?`); that is looked
at before the password is hashed, the name before the password. The user made from
an input that violates none is `SignupInput.user`. In memory, signing up adds
exactly this user, or leaves the rows alone: it is what a transaction that creates
one user comes to (`memory_createAlone`).

Key definitions: `SignupInput.violation?`, `SignupInput.user`.
Key theorems: `prepare_of_violation`, `prepare_eq_ok_iff`, `signup_of_unprepared`,
`signup_of_added`, `signup_of_prepared`, `signup_cases`.
-/
import UserAccounts.Proofs.Store.Rows
import UserAccounts.Proofs.User.Password
import UserAccounts.Service.Signup

namespace UserAccounts

/-- The rule that an input violates; of two, the one for the name. -/
def SignupInput.violation? (input : SignupInput) : Option Violation :=
  if Text.allBlank input.name then some .nameMissing
  else if input.password.length < leastPasswordLength then some .passwordTooShort
  else none

/-- The user made from an input and the hash of its password. -/
def SignupInput.user (input : SignupInput) (random : Randomness) (passwordHash : Bytes)
    (now : Time.Instant) : User :=
  { id := .ofRandom random.id, email := input.email, passwordHash, name := input.name,
    status := .active, createdAt := now }

/-! ### Refusals -/

/-- A refusal is told as a failure inside unless it finds fault with the input. -/
theorem Failure.isInternal_ofRefusal (refusal : Refusal) :
    (Failure.ofRefusal refusal).isInternal = !refusal.isInvalid := by
  cases refusal <;> rfl

theorem Failure.ofRefusal_ne_notFound (refusal : Refusal) :
    Failure.ofRefusal refusal ≠ .notFound := by
  cases refusal <;> exact nofun

variable {hasher : Hasher} {random : Randomness} {input : SignupInput} {now : Time.Instant}
  {rows : Rows} {user : User} {σ δ : Type} {p : Persistence σ δ}

theorem exists_password (h : input.violation? = none) :
    ∃ password : Password, password.text = input.password := by
  unfold SignupInput.violation? at h
  split at h
  · cases h
  · split at h
    · cases h
    · rename_i hlong
      exact ⟨⟨input.password, by omega⟩, rfl⟩

/-! ### Making the user -/

theorem prepare_of_violation {violation : Violation} (h : input.violation? = some violation) :
    prepare hasher random input now = .error (.ofViolation violation) := by
  unfold prepare User.create
  unfold SignupInput.violation? at h
  split at h
  · rename_i hblank
    obtain rfl := Option.some.inj h
    rw [if_pos hblank]
    rfl
  · rename_i hblank
    rw [if_neg hblank]
    split at h
    · rename_i hshort
      obtain rfl := Option.some.inj h
      have hof : Password.of? input.password = .error .passwordTooShort := by
        unfold Password.of?
        rw [dif_neg (by omega)]
      rw [hof]
      rfl
    · cases h

theorem prepare_of_valid (h : input.violation? = none) {password : Password}
    (hp : password.text = input.password) :
    prepare hasher random input now =
      match hasher.hash random.salt password with
      | .ok hash => .ok (input.user random hash now)
      | .error refusal => .error (.ofRefusal refusal) := by
  have hof := Password.of?_eq_ok_iff.mpr hp
  have hname : Text.allBlank input.name = false := by
    unfold SignupInput.violation? at h
    cases hblank : Text.allBlank input.name with
    | false => rfl
    | true => simp [hblank] at h
  unfold prepare User.create
  rw [hname, hof]
  simp only [Bool.false_eq_true, if_false]
  cases hasher.hash random.salt password <;> rfl

/-- A user is made exactly from an input that violates no rule and whose password is hashed. -/
theorem prepare_eq_ok_iff :
    prepare hasher random input now = .ok user ↔
      input.violation? = none ∧ ∃ password hash, password.text = input.password ∧
        hasher.hash random.salt password = .ok hash ∧ user = input.user random hash now := by
  cases hv : input.violation? with
  | some violation => simp [prepare_of_violation hv]
  | none =>
    obtain ⟨password, hp⟩ := exists_password hv
    rw [prepare_of_valid hv hp]
    constructor
    · intro h
      cases hh : hasher.hash random.salt password with
      | error refusal => simp [hh] at h
      | ok hash =>
        rw [hh] at h
        exact ⟨rfl, password, hash, hp, hh, (Except.ok.inj h).symm⟩
    · rintro ⟨-, password', hash, hp', hh, rfl⟩
      rw [← Password.eq_of_text (hp'.trans hp.symm), hh]

/-! ### Adding the user in memory -/

theorem memory_createAlone (user : User) (rows : Rows) :
    Persistence.memory.createAlone user rows =
      if rows.contains user.email then (.error (emailTaken user), rows)
      else (.ok user, rows.extend [user]) := by
  unfold Persistence.createAlone
  rw [Persistence.memory_start]
  cases hfree : rows.contains user.email with
  | true =>
    have hc : Draft.empty.create rows user = .error (emailTaken user) := by
      simp [Draft.create, hfree]
    simp only [Persistence.memory_createIn_of_error hc, if_true]
    rfl
  | false =>
    have hc : Draft.empty.create rows user = .ok ⟨[user]⟩ := by
      simp [Draft.create, Draft.contains, Draft.empty, hfree]
    have hroom : rows.HasRoomFor (Draft.mk [user]).users := Rows.hasRoomFor_singleton.mpr hfree
    simp only [Persistence.memory_createIn_of_ok hc,
      Persistence.memory_commit_of_ok (Draft.commit_of_room hroom), Bool.false_eq_true, if_false]

theorem signup_of_unprepared {failure : Failure}
    (h : prepare hasher random input now = .error failure) (s : σ) :
    signup p hasher random input now s = (.error failure, s) := by
  unfold signup
  rw [h]

theorem signup_of_added {s s' : σ} {result : Except Failure User}
    (h : prepare hasher random input now = .ok user) (hadd : p.createAlone user s = (result, s')) :
    signup p hasher random input now s = (result.map SignupOutput.ofUser, s') := by
  unfold signup
  rw [h]
  simp only [hadd]

theorem signup_of_prepared (h : prepare hasher random input now = .ok user) (rows : Rows) :
    signup .memory hasher random input now rows =
      if rows.contains user.email then (.error (emailTaken user), rows)
      else (.ok (.ofUser user), rows.extend [user]) := by
  unfold signup
  rw [h]
  simp only [memory_createAlone]
  split <;> rfl

/-- In memory, signing up fails and leaves the rows alone, or adds the user who is made. -/
theorem signup_cases (hasher : Hasher) (random : Randomness) (input : SignupInput)
    (now : Time.Instant) (rows : Rows) :
    (∃ failure, signup .memory hasher random input now rows = (.error failure, rows)) ∨
      ∃ user, prepare hasher random input now = .ok user ∧ rows.contains user.email = false ∧
        signup .memory hasher random input now rows = (.ok (.ofUser user), rows.extend [user]) := by
  cases hp : prepare hasher random input now with
  | error failure => exact .inl ⟨failure, signup_of_unprepared hp rows⟩
  | ok user =>
    rw [signup_of_prepared hp]
    cases hfree : rows.contains user.email with
    | true => exact .inl ⟨emailTaken user, rfl⟩
    | false => exact .inr ⟨user, rfl, hfree, rfl⟩

theorem allBlank_eq_false_iff {s : String} :
    Text.allBlank s = false ↔ ∃ c ∈ s.toList, Text.isBlank c = false := by
  unfold Text.allBlank
  rw [List.all_eq_false]
  exact exists_congr fun c => and_congr_right fun _ => by rw [Bool.not_eq_true]

theorem violation?_eq_none_iff :
    input.violation? = none ↔
      Text.allBlank input.name = false ∧ leastPasswordLength ≤ input.password.length := by
  unfold SignupInput.violation?
  cases Text.allBlank input.name with
  | true => simp
  | false =>
    by_cases hshort : input.password.length < leastPasswordLength
    · have hnot : ¬ leastPasswordLength ≤ input.password.length := Nat.not_le_of_lt hshort
      simp [hshort, hnot]
    · have hlong : leastPasswordLength ≤ input.password.length := Nat.le_of_not_lt hshort
      simp [hshort, hlong]

end UserAccounts
