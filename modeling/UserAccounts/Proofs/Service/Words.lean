/-
# Runs that differ in words only

Two runs differ in nothing but the words of what fails inside: in keeping users, in
hashing, or in issuing tokens. Then signing up and logging in come to the same on both
sides, or fail on both for the same reason but for words (`signup_same`, `login_same`).

The two runs are related step by step (`SameStep`): each part of the service gives
the same on both sides, or fails inside on both. What is kept need not be the same on
both sides; it is related by `S`, and the state of a transaction by `D`. Users in a
table are such a way of keeping them, whatever the faults of the connection say
(`Sql.Connection.SameButWords.persistence`).

That nobody is found is a failure inside as well, but not one of words: who logs in
is told of it that the credentials are wrong.

Key definitions: `Failure.SameButWords`, `SameStep`, `Persistence.SameButWords`,
`Refusal.SameButWords`, `Hasher.SameButWords`, `Issuer.SameButWords`,
`Sql.Connection.SameButWords`.
Key theorems: `Persistence.SameButWords.createAlone`, `signup_same`, `login_same`.
-/
import UserAccounts.Proofs.Service.Signup
import UserAccounts.Proofs.Sql.Agreement
import UserAccounts.Service.Login

namespace UserAccounts

/-! ### The same but for words -/

/-- The same failure, or two inside that differ in what is said of them, and perhaps in where they
arose. -/
def Failure.SameButWords (failure other : Failure) : Prop :=
  failure = other ∨ failure.Agrees other

namespace Failure

variable {failure other : Failure}

theorem sameButWords_of_isInternal (h : failure.isInternal = true) (h' : other.isInternal = true)
    (hne : failure ≠ .notFound) (hne' : other ≠ .notFound) : failure.SameButWords other :=
  .inr ⟨⟨fun he => absurd he hne, fun he => absurd he hne'⟩, h, h'⟩

theorem sameButWords_of_faults (fault fault' : Database.Fault) :
    (Failure.database fault).SameButWords (.database fault') :=
  sameButWords_of_isInternal rfl rfl nofun nofun

/-- Nobody is found on both sides or on neither. -/
theorem SameButWords.notFound_iff (h : failure.SameButWords other) :
    failure = .notFound ↔ other = .notFound := by
  rcases h with rfl | hagrees
  · exact Iff.rfl
  · exact hagrees.1

end Failure

/-- Both come to related values, or both to related failures. -/
inductive SameResult {ε α β : Type} (E : ε → ε → Prop) (R : α → β → Prop) :
    Except ε α → Except ε β → Prop where
  | ok {a : α} {b : β} (h : R a b) : SameResult E R (.ok a) (.ok b)
  | error {e e' : ε} (h : E e e') : SameResult E R (.error e) (.error e')

/-- Both come to the same value, or fail in the same way but for words. -/
abbrev SameOutcome {α : Type} (result other : Except Failure α) : Prop :=
  SameResult Failure.SameButWords Eq result other

/-- The results are related, and so is what is kept then. -/
inductive SameStep {ε α β σ σ' : Type} (E : ε → ε → Prop) (R : α → β → Prop) (S : σ → σ' → Prop) :
    Except ε α × σ → Except ε β × σ' → Prop where
  | ok {a : α} {b : β} {s : σ} {s' : σ'} (h : R a b) (hs : S s s') :
    SameStep E R S (.ok a, s) (.ok b, s')
  | error {e e' : ε} {s : σ} {s' : σ'} (h : E e e') (hs : S s s') :
    SameStep E R S (.error e, s) (.error e', s')

theorem SameOutcome.refl {α : Type} : ∀ result : Except Failure α, SameOutcome result result
  | .ok _ => .ok rfl
  | .error _ => .error (.inl rfl)

section

variable {ε α β σ σ' : Type} {E : ε → ε → Prop} {R : α → β → Prop} {S : σ → σ' → Prop}

theorem SameResult.step {result : Except ε α} {result' : Except ε β}
    (h : SameResult E R result result') {s : σ} {s' : σ'} (hs : S s s') :
    SameStep E R S (result, s) (result', s') := by
  cases h with
  | ok h => exact .ok h hs
  | error h => exact .error h hs

theorem SameStep.refl (step : Except Failure α × σ) :
    SameStep Failure.SameButWords Eq Eq step step :=
  (SameOutcome.refl step.1).step rfl

end

/-! ### Keeping users -/

/-- Two ways of keeping users that differ in the words of failures only. `S` relates what they keep
and `D` the states of their transactions. -/
structure Persistence.SameButWords {σ σ' δ δ' : Type} (S : σ → σ' → Prop) (D : δ → δ' → Prop)
    (p : Persistence σ δ) (p' : Persistence σ' δ') : Prop where
  find : ∀ {s s'}, S s s' → ∀ email,
    SameStep Failure.SameButWords Eq S (p.find email s) (p'.find email s')
  start : ∀ {s s'}, S s s' → SameStep Failure.SameButWords D S (p.start s) (p'.start s')
  createIn : ∀ {s s' d d'}, S s s' → D d d' → ∀ user,
    SameStep Failure.SameButWords Eq (fun x x' => D x.1 x'.1 ∧ S x.2 x'.2) (p.createIn user d s)
      (p'.createIn user d' s')
  commit : ∀ {s s' d d'}, S s s' → D d d' →
    SameStep Failure.SameButWords Eq S (p.commit d s) (p'.commit d' s')
  rollback : ∀ {s s' d d'}, S s s' → D d d' → S (p.rollback d s) (p'.rollback d' s')

namespace Persistence.SameButWords

variable {σ σ' δ δ' : Type} {S : σ → σ' → Prop} {D : δ → δ' → Prop} {p : Persistence σ δ}
  {p' : Persistence σ' δ'} {failure other : Failure} {s : σ} {s' : σ'}

theorem refl (p : Persistence σ δ) : p.SameButWords Eq Eq p where
  find := by
    rintro s _ rfl email
    exact SameStep.refl _
  start := by
    rintro s _ rfl
    exact SameStep.refl _
  createIn := by
    rintro s _ d _ rfl rfl user
    exact (SameOutcome.refl _).step ⟨rfl, rfl⟩
  commit := by
    rintro s _ d _ rfl rfl
    exact SameStep.refl _
  rollback := by
    rintro s _ d _ rfl rfl
    rfl

theorem findFailing (h : p.SameButWords S D p') (hf : failure.SameButWords other) :
    (p.findFailing failure).SameButWords S D (p'.findFailing other) where
  find hs _ := .error hf hs
  start := h.start
  createIn := h.createIn
  commit := h.commit
  rollback := h.rollback

theorem createFailing (h : p.SameButWords S D p') (hf : failure.SameButWords other) :
    (p.createFailing failure).SameButWords S D (p'.createFailing other) where
  find := h.find
  start := h.start
  createIn hs hd _ := .error hf ⟨hd, hs⟩
  commit := h.commit
  rollback := h.rollback

theorem createAlone (h : p.SameButWords S D p') (hs : S s s') (user : User) :
    SameStep Failure.SameButWords Eq S (p.createAlone user s) (p'.createAlone user s') := by
  have hstart := h.start hs
  unfold Persistence.createAlone
  generalize p.start s = opened at hstart
  generalize p'.start s' = opened' at hstart
  cases hstart with
  | error hf hopened => exact .error hf hopened
  | @ok d d' s₁ s₁' hd hopened =>
    have hcreate := h.createIn hopened hd user
    simp only
    generalize p.createIn user d s₁ = created at hcreate
    generalize p'.createIn user d' s₁' = created' at hcreate
    cases hcreate with
    | error hf hcreated => exact .error hf (h.rollback hcreated.2 hcreated.1)
    | @ok _ _ x x' hu hcreated =>
      obtain rfl := hu
      have hcommit := h.commit hcreated.2 hcreated.1
      simp only
      generalize p.commit x.1 x.2 = closed at hcommit
      generalize p'.commit x'.1 x'.2 = closed' at hcommit
      cases hcommit with
      | error hf hclosed => exact .error hf hclosed
      | ok _ hclosed => exact .ok rfl hclosed

end Persistence.SameButWords

/-! ### Users in a table -/

namespace Sql.Connection

variable {κ κ' : Type} {S : κ → κ' → Prop} {c : Connection κ} {c' : Connection κ'} {k : κ}
  {k' : κ'}

/-- The user of the row that is answered; `missing` is said where there is none. -/
def userOf (missing : Failure) :
    Except Database.Fault (Option Row) × κ → Except Failure User × κ
  | (.error fault, k) => (.error (.database fault), k)
  | (.ok none, k) => (.error missing, k)
  | (.ok (some row), k) => (row.toUser, k)

/-- Two connections that answer the same, or both with a fault. -/
structure SameButWords (S : κ → κ' → Prop) (c : Connection κ) (c' : Connection κ') : Prop where
  query : ∀ {k k'}, S k k' → ∀ statement,
    SameStep (fun _ _ => True) Eq S (c.query statement k) (c'.query statement k')
  control : ∀ {k k'}, S k k' → ∀ control,
    SameStep (fun _ _ => True) Eq S (c.control control k) (c'.control control k')

namespace SameButWords

theorem userOf (missing : Failure) {answer : Except Database.Fault (Option Row) × κ}
    {answer' : Except Database.Fault (Option Row) × κ'}
    (h : SameStep (fun _ _ => True) Eq S answer answer') :
    SameStep Failure.SameButWords Eq S (Connection.userOf missing answer)
      (Connection.userOf missing answer') := by
  cases h with
  | error _ hkept => exact .error (Failure.sameButWords_of_faults _ _) hkept
  | @ok row? _ _ _ hsame hkept =>
    obtain rfl := hsame
    cases row? with
    | none => exact .error (.inl rfl) hkept
    | some row => exact (SameOutcome.refl row.toUser).step hkept

theorem find (h : c.SameButWords S c') (hk : S k k') (email : String) :
    SameStep Failure.SameButWords Eq S (c.find email k) (c'.find email k') :=
  userOf .notFound (h.query hk (.selectByEmail email))

theorem create (h : c.SameButWords S c') (hk : S k k') (user : User) :
    SameStep Failure.SameButWords Eq S (c.create user k) (c'.create user k') :=
  userOf (.database insertedMissing) (h.query hk (.insert (.ofUser user)))

theorem send (h : c.SameButWords S c') (hk : S k k') (control : Control) :
    SameStep Failure.SameButWords Eq S (c.send control k) (c'.send control k') := by
  have hcontrol := h.control hk control
  unfold Connection.send
  generalize c.control control k = answer at hcontrol
  generalize c'.control control k' = answer' at hcontrol
  cases hcontrol with
  | error _ hkept => exact .error (Failure.sameButWords_of_faults _ _) hkept
  | ok _ hkept => exact .ok rfl hkept

theorem persistence (h : c.SameButWords S c') :
    c.persistence.SameButWords S Eq c'.persistence where
  find hk email := h.find hk email
  start hk := h.send hk .start
  createIn {k k'} _ _ hk _ user := by
    have hcreate := h.create hk user
    simp only [Connection.persistence]
    generalize c.create user k = created at hcreate
    generalize c'.create user k' = created' at hcreate
    cases hcreate with
    | ok hu hkept => exact .ok hu ⟨trivial, hkept⟩
    | error hf hkept => exact .error hf ⟨trivial, hkept⟩
  commit hk _ := h.send hk .commit
  rollback {k k'} _ _ hk _ := by
    have hback := h.send hk .rollback
    simp only [Connection.persistence]
    generalize c.send .rollback k = sent at hback
    generalize c'.send .rollback k' = sent' at hback
    cases hback with
    | ok _ hkept => exact hkept
    | error _ hkept => exact hkept

end SameButWords

end Sql.Connection

/-! ### Hashing and issuing tokens -/

/-- The same refusal, or two that are not the input's fault. -/
def Refusal.SameButWords (refusal other : Refusal) : Prop :=
  refusal = other ∨ refusal.isInvalid = false ∧ other.isInvalid = false

theorem Refusal.SameButWords.failure {refusal other : Refusal} (h : refusal.SameButWords other) :
    (Failure.ofRefusal refusal).SameButWords (.ofRefusal other) := by
  rcases h with rfl | ⟨h, h'⟩
  · exact .inl rfl
  · apply Failure.sameButWords_of_isInternal
    · rw [Failure.isInternal_ofRefusal, h, Bool.not_false]
    · rw [Failure.isInternal_ofRefusal, h', Bool.not_false]
    · exact Failure.ofRefusal_ne_notFound refusal
    · exact Failure.ofRefusal_ne_notFound other

/-- Two hashers that hash, and verify, to the same, or refuse in the same way but for words. -/
structure Hasher.SameButWords (hasher hasher' : Hasher) : Prop where
  hash : ∀ salt password,
    SameResult Refusal.SameButWords Eq (hasher.hash salt password) (hasher'.hash salt password)
  verify : ∀ stored password,
    SameResult Refusal.SameButWords Eq (hasher.verify stored password)
      (hasher'.verify stored password)

/-- Two issuers that issue the same tokens, and fail in the same way but for words. -/
def Issuer.SameButWords (issuer issuer' : Issuer) : Prop :=
  ∀ id now, SameOutcome (issuer id now) (issuer' id now)

/-! ### Signing up and logging in -/

variable {hasher hasher' : Hasher} {issuer issuer' : Issuer} {σ σ' δ δ' : Type}
  {S : σ → σ' → Prop} {D : δ → δ' → Prop} {p : Persistence σ δ} {p' : Persistence σ' δ'} {s : σ}
  {s' : σ'}

theorem prepare_same (h : hasher.SameButWords hasher') (random : Randomness) (input : SignupInput)
    (now : Time.Instant) :
    SameOutcome (prepare hasher random input now) (prepare hasher' random input now) := by
  cases hvalid : input.violation? with
  | some violation =>
    rw [prepare_of_violation hvalid, prepare_of_violation hvalid]
    exact .refl _
  | none =>
    obtain ⟨password, hpassword⟩ := exists_password hvalid
    have hhash := h.hash random.salt password
    rw [prepare_of_valid hvalid hpassword, prepare_of_valid hvalid hpassword]
    generalize hasher.hash random.salt password = hashed at hhash
    generalize hasher'.hash random.salt password = hashed' at hhash
    cases hhash with
    | ok he =>
      obtain rfl := he
      exact .refl _
    | error hf => exact .error hf.failure

theorem signup_same (hp : p.SameButWords S D p') (hh : hasher.SameButWords hasher')
    (random : Randomness) (input : SignupInput) (now : Time.Instant) (hs : S s s') :
    SameStep Failure.SameButWords Eq S (signup p hasher random input now s)
      (signup p' hasher' random input now s') := by
  have hprepare := prepare_same hh random input now
  unfold signup
  generalize prepare hasher random input now = prepared at hprepare
  generalize prepare hasher' random input now = prepared' at hprepare
  cases hprepare with
  | error hf => exact .error hf hs
  | @ok user _ hu =>
    obtain rfl := hu
    have hcreate := hp.createAlone hs user
    simp only
    generalize p.createAlone user s = created at hcreate
    generalize p'.createAlone user s' = created' at hcreate
    cases hcreate with
    | error hf hkept => exact .error hf hkept
    | ok hu hkept =>
      obtain rfl := hu
      exact .ok rfl hkept

theorem checkCredentials_same (h : hasher.SameButWords hasher') (user : User) (password : String) :
    SameOutcome (checkCredentials hasher user password)
      (checkCredentials hasher' user password) := by
  unfold checkCredentials
  by_cases hactive : user.status ≠ .active
  · rw [if_pos hactive, if_pos hactive]
    exact .refl _
  · rw [if_neg hactive, if_neg hactive]
    unfold User.compare
    cases Password.of? password with
    | error violation => exact .refl _
    | ok given =>
      have hverify := h.verify user.passwordHash given
      simp only
      generalize hasher.verify user.passwordHash given = verified at hverify
      generalize hasher'.verify user.passwordHash given = verified' at hverify
      cases hverify with
      | ok he =>
        obtain rfl := he
        exact .refl _
      | error hf => exact .error hf.failure

theorem authenticate_of_error {failure : Failure} (h : failure ≠ .notFound) (password : String)
    (now : Time.Instant) :
    authenticate hasher issuer (.error failure) password now = .error failure := by
  cases failure with
  | notFound => exact absurd rfl h
  | invalid | invalidCredential | database | signing | internal => rfl

theorem authenticate_same (hh : hasher.SameButWords hasher') (hi : issuer.SameButWords issuer')
    {found found' : Except Failure User} (hfound : SameOutcome found found') (password : String)
    (now : Time.Instant) :
    SameOutcome (authenticate hasher issuer found password now)
      (authenticate hasher' issuer' found' password now) := by
  cases hfound with
  | @error failure other hf =>
    -- That nobody is found is not passed on as it is, so it is told from the other failures first.
    by_cases hmissing : failure = .notFound
    · obtain rfl := hf.notFound_iff.mp hmissing
      obtain rfl := hmissing
      exact .refl _
    · have hmissing' := hf.notFound_iff.not.mp hmissing
      rw [authenticate_of_error hmissing, authenticate_of_error hmissing']
      exact .error hf
  | @ok user _ hu =>
    obtain rfl := hu
    have hcheck := checkCredentials_same hh user password
    unfold authenticate
    simp only
    generalize checkCredentials hasher user password = checked at hcheck
    generalize checkCredentials hasher' user password = checked' at hcheck
    cases hcheck with
    | error hf => exact .error hf
    | ok =>
      have hissue := hi user.id now
      simp only
      generalize issuer user.id now = issued at hissue
      generalize issuer' user.id now = issued' at hissue
      cases hissue with
      | error hf => exact .error hf
      | ok ht =>
        obtain rfl := ht
        exact .refl _

theorem login_same (hp : p.SameButWords S D p') (hh : hasher.SameButWords hasher')
    (hi : issuer.SameButWords issuer') (input : LoginInput) (now : Time.Instant) (hs : S s s') :
    SameStep Failure.SameButWords Eq S (login p hasher issuer input now s)
      (login p' hasher' issuer' input now s') := by
  have hfind := hp.find hs input.email
  unfold login
  generalize p.find input.email s = found at hfind
  generalize p'.find input.email s' = found' at hfind
  cases hfind with
  | ok hu hkept => exact (authenticate_same hh hi (.ok hu) input.password now).step hkept
  | error hf hkept => exact (authenticate_same hh hi (.error hf) input.password now).step hkept

end UserAccounts
