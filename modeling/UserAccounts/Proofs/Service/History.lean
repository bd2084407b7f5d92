/-
# Who is let in

Some sign up and some log in, one after another, with users kept in memory, which
is empty at first. Everything that has happened is the history (`history`). A user
is in the rows exactly when somebody in the history has been signed up as this user
(`Recorded`): signing up adds the new user under an address that was free, nothing
else changes the rows, and rows are never replaced.

So, with an exact hasher and an issuer that does not fail, whoever logs in is let in
exactly if somebody has been signed up before with this address and this password,
and is told what was told then (`let_in_iff_signed_up`).

Key definitions: `Entry`, `history`, `Entry.SignedUp`, `Recorded`.
Key theorems: `Recorded.visit`, `recorded_history`, `let_in_iff_signed_up`.
-/
import UserAccounts.Proofs.Service.Login
import UserAccounts.Proofs.Service.Signup

namespace UserAccounts

/-- Somebody who comes to sign up or to log in. -/
inductive Visit where
  | signup (random : Randomness) (input : SignupInput) (now : Time.Instant)
  | login (input : LoginInput) (now : Time.Instant)

/-- A visit, and what came of it. -/
inductive Entry where
  | signup (random : Randomness) (input : SignupInput) (now : Time.Instant)
      (answer : Except Failure SignupOutput)
  | login (input : LoginInput) (now : Time.Instant) (answer : Except Failure LoginOutput)

section

variable {σ δ : Type}

def Visit.run (p : Persistence σ δ) (hasher : Hasher) (issuer : Issuer) (s : σ) :
    Visit → Entry × σ
  | .signup random input now =>
    let (answer, s) := UserAccounts.signup p hasher random input now s
    (.signup random input now answer, s)
  | .login input now =>
    let (answer, s) := UserAccounts.login p hasher issuer input now s
    (.login input now answer, s)

def history (p : Persistence σ δ) (hasher : Hasher) (issuer : Issuer) : List Visit → σ →
    List Entry × σ
  | [], s => ([], s)
  | visit :: visits, s =>
    let (entry, s) := visit.run p hasher issuer s
    let (entries, s) := history p hasher issuer visits s
    (entry :: entries, s)

end

/-- Somebody has signed up with this address and this password, and been told so. -/
def Entry.SignedUp (entry : Entry) (email password : String) (told : SignupOutput) : Prop :=
  ∃ random name now, entry = .signup random ⟨email, password, name⟩ now (.ok told)

/-! ### The rows and the history -/

/-- Somebody has been signed up as this user. -/
def Entry.Made (hasher : Hasher) (user : User) : Entry → Prop
  | .signup random input now answer =>
    prepare hasher random input now = .ok user ∧ answer = .ok (.ofUser user)
  | .login .. => False

/-- The history and the rows belong together. -/
structure Recorded (hasher : Hasher) (past : List Entry) (rows : Rows) : Prop where
  /-- The rows have exactly those users as whom somebody has been signed up. -/
  rows_iff : ∀ email user, rows.get? email = some user ↔
    user.email = email ∧ ∃ entry ∈ past, entry.Made hasher user
  /-- Whoever has been told of a user has been signed up as this user. -/
  made : ∀ entry ∈ past, ∀ email password told, entry.SignedUp email password told →
    ∃ user, entry.Made hasher user

variable {hasher : Hasher} {issuer : Issuer} {past : List Entry} {rows : Rows} {entry : Entry}
  {user : User} {email password : String} {told : SignupOutput}

/-- Whoever has been signed up is active, knows the password, and has been told so. -/
theorem Entry.Made.signedUp (h : entry.Made hasher user) :
    ∃ password, entry.SignedUp user.email password (.ofUser user) ∧ user.Knows hasher password ∧
      user.status = .active := by
  cases entry with
  | signup random input now answer =>
    obtain ⟨hp, rfl⟩ := h
    obtain ⟨-, password, hash, hpassword, hhash, rfl⟩ := prepare_eq_ok_iff.mp hp
    exact ⟨input.password, ⟨random, input.name, now, rfl⟩,
      ⟨random.salt, password, hpassword, hhash⟩, rfl⟩
  | login input now answer => exact h.elim

theorem Entry.SignedUp.unique (h : entry.SignedUp email password told) {email' password' : String}
    {told' : SignupOutput} (h' : entry.SignedUp email' password' told') :
    email = email' ∧ password = password' ∧ told = told' := by
  obtain ⟨random, name, now, rfl⟩ := h
  obtain ⟨random', name', now', he⟩ := h'
  cases he
  exact ⟨rfl, rfl, rfl⟩

theorem recorded_nil : Recorded hasher [] .empty := by
  constructor
  · intro email user
    simp
  · intro entry hmem
    cases hmem

/-- An entry of somebody who has not been signed up leaves the rows alone. -/
theorem Recorded.idle (h : Recorded hasher past rows) (he : ∀ user, ¬ entry.Made hasher user)
    (hs : ∀ email password told, ¬ entry.SignedUp email password told) :
    Recorded hasher (past ++ [entry]) rows := by
  constructor
  · intro email user
    rw [h.rows_iff email user]
    simp [he]
  · intro e hmem email password told hsigned
    rcases List.mem_append.mp hmem with hmem | hmem
    · exact h.made e hmem email password told hsigned
    · obtain rfl := List.mem_singleton.mp hmem
      exact absurd hsigned (hs email password told)

/-- An entry of somebody who has been signed up under an address that was free adds the user. -/
theorem Recorded.extend (h : Recorded hasher past rows) (hfree : rows.contains user.email = false)
    (he : ∀ other, entry.Made hasher other ↔ other = user) :
    Recorded hasher (past ++ [entry]) (rows.extend [user]) := by
  constructor
  · intro email other
    constructor
    · intro hget
      rw [Rows.get?_extend, Option.or_eq_some_iff] at hget
      rcases hget with hget | ⟨-, hfind⟩
      · obtain ⟨hemail, e, hmem, hmade⟩ := (h.rows_iff email other).mp hget
        exact ⟨hemail, e, List.mem_append_left _ hmem, hmade⟩
      · obtain rfl : other = user := by simpa using List.mem_of_find?_eq_some hfind
        exact ⟨by simpa using List.find?_some hfind, entry, by simp, (he other).mpr rfl⟩
    · rintro ⟨rfl, e, hmem, hmade⟩
      rcases List.mem_append.mp hmem with hmem | hmem
      · exact Rows.get?_extend_of_some ((h.rows_iff _ other).mpr ⟨rfl, e, hmem, hmade⟩) _
      · obtain rfl := List.mem_singleton.mp hmem
        obtain rfl := (he other).mp hmade
        exact Rows.get?_extend_of_mem (Rows.hasRoomFor_singleton.mpr hfree) (by simp)
  · intro e hmem email password told hsigned
    rcases List.mem_append.mp hmem with hmem | hmem
    · exact h.made e hmem email password told hsigned
    · obtain rfl := List.mem_singleton.mp hmem
      exact ⟨user, (he user).mpr rfl⟩

/-- Each visit keeps the record. -/
theorem Recorded.visit (h : Recorded hasher past rows) (issuer : Issuer) (visit : Visit) :
    Recorded hasher (past ++ [(visit.run .memory hasher issuer rows).1])
      (visit.run .memory hasher issuer rows).2 := by
  cases visit with
  | login input now =>
    exact h.idle (fun _ => not_false) fun _ _ _ ⟨_, _, _, he⟩ => by cases he
  | signup random input now =>
    show Recorded hasher
      (past ++ [.signup random input now (signup .memory hasher random input now rows).1])
      (signup .memory hasher random input now rows).2
    -- Whoever is told of a failure has not been signed up.
    have hidle : ∀ failure,
        Recorded hasher (past ++ [.signup random input now (.error failure)]) rows := by
      intro failure
      exact h.idle (fun _ hmade => by cases hmade.2) fun _ _ _ ⟨_, _, _, he⟩ => by cases he
    cases hp : prepare hasher random input now with
    | error failure =>
      rw [signup_of_unprepared hp]
      exact hidle failure
    | ok user =>
      rw [signup_of_prepared hp]
      cases hfree : rows.contains user.email with
      | true => exact hidle (emailTaken user)
      | false =>
        refine h.extend hfree fun other => ⟨?_, ?_⟩
        · intro hmade
          exact Except.ok.inj (hmade.1.symm.trans hp)
        · rintro rfl
          exact ⟨hp, rfl⟩

/-- Visits one after another keep the record. -/
theorem recorded_history (issuer : Issuer) : ∀ (visits : List Visit) {past : List Entry}
    {rows : Rows}, Recorded hasher past rows →
      Recorded hasher (past ++ (history .memory hasher issuer visits rows).1)
        (history .memory hasher issuer visits rows).2
  | [], past, rows, h => by
    rw [show (history .memory hasher issuer [] rows).1 = [] from rfl, List.append_nil]
    exact h
  | visit :: visits, past, rows, h => by
    have hrest := recorded_history issuer visits (h.visit issuer visit)
    rw [List.append_assoc] at hrest
    exact hrest

/-- An entry of a history comes of a visit to what the entries before it have left. -/
theorem exists_visit {σ δ : Type} (p : Persistence σ δ) (hasher : Hasher) (issuer : Issuer) :
    ∀ (visits : List Visit) {past future : List Entry} {entry : Entry} {s : σ},
      (history p hasher issuer visits s).1 = past ++ entry :: future →
        ∃ earlier visit, (history p hasher issuer earlier s).1 = past ∧
          (Visit.run p hasher issuer (history p hasher issuer earlier s).2 visit).1 = entry
  | [], past, future, entry, s, he => by
    cases past <;> cases he
  | visit :: visits, [], future, entry, s, he => ⟨[], visit, rfl, (List.cons.inj he).1⟩
  | visit :: visits, first :: past, future, entry, s, he => by
    obtain ⟨hfirst, hrest⟩ := List.cons.inj he
    obtain ⟨earlier, visit', hpast, hentry⟩ := exists_visit p hasher issuer visits hrest
    exact ⟨visit :: earlier, visit', List.cons_eq_cons.mpr ⟨hfirst, hpast⟩, hentry⟩

/-! ### Logging in -/

theorem Recorded.exists_user (h : Recorded hasher past rows) (he : entry ∈ past)
    (hs : entry.SignedUp email password told) :
    ∃ user, rows.find email = .ok user ∧ user.Knows hasher password ∧ user.status = .active ∧
      told = .ofUser user := by
  obtain ⟨user, hmade⟩ := h.made entry he email password told hs
  obtain ⟨password', hs', hknows, hactive⟩ := hmade.signedUp
  obtain ⟨rfl, rfl, rfl⟩ := hs.unique hs'
  have hget := (h.rows_iff user.email user).mpr ⟨rfl, entry, he, hmade⟩
  exact ⟨user, Rows.find_eq_ok_iff.mpr hget, hknows, hactive, rfl⟩

/-- Under each address at most one has been signed up. -/
theorem Recorded.told_unique (h : Recorded hasher past rows) {entry' : Entry}
    (he : entry ∈ past) (he' : entry' ∈ past) {password' : String} {told' : SignupOutput}
    (hs : entry.SignedUp email password told) (hs' : entry'.SignedUp email password' told') :
    told = told' := by
  obtain ⟨user, hfind, -, -, rfl⟩ := h.exists_user he hs
  obtain ⟨user', hfind', -, -, rfl⟩ := h.exists_user he' hs'
  rw [Except.ok.inj (hfind.symm.trans hfind')]

/-- With an exact hasher, whoever logs in is let in with an address and a password with which
somebody has been signed up, and with a token. -/
theorem Recorded.authenticate_eq_ok_iff (h : Recorded hasher past rows) (hh : hasher.Exact)
    {now : Time.Instant} {output : LoginOutput} :
    authenticate hasher issuer (rows.find email) password now = .ok output ↔
      ∃ entry ∈ past, ∃ told token, entry.SignedUp email password told ∧
        issuer told.id now = .ok token ∧
        output = ⟨token.value, token.expiresAt, told.id, told.name, told.email⟩ := by
  rw [UserAccounts.authenticate_eq_ok_iff]
  constructor
  · rintro ⟨user, token, hfind, -, hcompare, htoken, rfl⟩
    obtain ⟨rfl, entry, he, hmade⟩ := (h.rows_iff email user).mp (Rows.find_eq_ok_iff.mp hfind)
    obtain ⟨password', hs, hknows, -⟩ := hmade.signedUp
    obtain rfl := (User.compare_eq_ok_true_iff hh hknows).mp hcompare
    exact ⟨entry, he, .ofUser user, token, hs, htoken, rfl⟩
  · rintro ⟨entry, he, told, token, hs, htoken, rfl⟩
    obtain ⟨user, hfind, hknows, hactive, rfl⟩ := h.exists_user he hs
    have hcompare := (User.compare_eq_ok_true_iff hh hknows).mpr rfl
    exact ⟨user, token, hfind, hactive, hcompare, htoken, rfl⟩

theorem Issuer.exists_claims {settings : TokenSettings} {id : Id} {now : Time.Instant}
    {token : AccessToken} (h : Issuer.ofSettings settings id now = .ok token) :
    ∃ claims : Claims, claims.subject = id.toText ∧
      token.value = signedToken (.ofSecret (Utf8.encode settings.secret)) claims := by
  unfold Issuer.ofSettings at h
  split at h
  · cases h
  · rename_i expiresAt _
    rw [← Except.ok.inj h]
    exact ⟨⟨id.toText, Int64.ofInt now.seconds, Int64.ofInt expiresAt.seconds⟩, rfl, rfl⟩

/-- **Who is let in.** In every history that starts with nobody, with an exact hasher: whoever logs
in while the issuer does not fail is let in exactly if somebody has been signed up before with this
address and this password. The token is then for the user of whom was told when signing up, and
what is told now is the same. -/
theorem let_in_iff_signed_up (hasher : Hasher) (issuer : Issuer) (hh : hasher.Exact)
    (visits : List Visit) (past future : List Entry) (input : LoginInput) (now : Time.Instant)
    (answer : Except Failure LoginOutput)
    (hvisits : (history .memory hasher issuer visits .empty).1 =
      past ++ .login input now answer :: future)
    (hissuer : ∀ id, ∃ token, issuer id now = .ok token) :
    ((∃ output, answer = .ok output) ↔
      ∃ entry ∈ past, ∃ told, entry.SignedUp input.email input.password told) ∧
    ∀ output, answer = .ok output →
      ∀ entry ∈ past, ∀ told, entry.SignedUp input.email input.password told →
        issuer told.id now = .ok ⟨output.token, output.expiresAt⟩ ∧
        output.userId = told.id ∧ output.userName = told.name ∧ output.userEmail = told.email ∧
        ∀ settings, issuer = .ofSettings settings → ∃ claims : Claims,
          claims.subject = told.id.toText ∧
          output.token = signedToken (.ofSecret (Utf8.encode settings.secret)) claims := by
  obtain ⟨earlier, visit, hpast, hvisit⟩ := exists_visit .memory hasher issuer visits hvisits
  have h : Recorded hasher _ _ := recorded_history issuer earlier recorded_nil
  rw [List.nil_append, hpast] at h
  generalize (history .memory hasher issuer earlier .empty).2 = rows at h hvisit
  have hanswer : authenticate hasher issuer (rows.find input.email) input.password now =
      answer := by
    cases visit with
    | signup random input now => cases hvisit
    | login input now =>
      cases hvisit
      rfl
  subst hanswer
  refine ⟨⟨?_, ?_⟩, ?_⟩
  · rintro ⟨output, ho⟩
    obtain ⟨entry, he, told, token, hs, -, -⟩ := (h.authenticate_eq_ok_iff hh).mp ho
    exact ⟨entry, he, told, hs⟩
  · rintro ⟨entry, he, told, hs⟩
    obtain ⟨token, htoken⟩ := hissuer told.id
    exact ⟨_, (h.authenticate_eq_ok_iff hh).mpr ⟨entry, he, told, token, hs, htoken, rfl⟩⟩
  · intro output ho entry he told hs
    obtain ⟨entry', he', told', token, hs', htoken, rfl⟩ := (h.authenticate_eq_ok_iff hh).mp ho
    obtain rfl := h.told_unique he he' hs hs'
    refine ⟨htoken, rfl, rfl, rfl, ?_⟩
    rintro settings rfl
    exact Issuer.exists_claims htoken

/-- Somebody signs up and logs in. -/
theorem let_in_after_signing_up :
    let now : Time.Instant := ⟨0, 0, by decide, by decide, by decide⟩
    let random : Randomness := ⟨.replicate 16 0, .replicate 16 0⟩
    let input : SignupInput := ⟨"ada@example.com", "12345678", "Ada"⟩
    let issuer : Issuer := fun id now => .ok ⟨id.toText, now⟩
    ∃ told output,
      (history .memory .plain issuer
        [.signup random input now, .login ⟨input.email, input.password⟩ now] .empty).1 =
          [.signup random input now (.ok told),
            .login ⟨input.email, input.password⟩ now (.ok output)] ∧
      output.userId = told.id ∧ output.userName = told.name ∧ output.userEmail = told.email := by
  intro now random input issuer
  let password : Password := ⟨"12345678", by decide⟩
  let user := input.user random (Hasher.plainBytes password) now
  have hp : prepare .plain random input now = .ok user :=
    prepare_eq_ok_iff.mpr ⟨by decide, password, _, rfl, rfl, rfl⟩
  have htold : (signup .memory .plain random input now .empty).1 = .ok (.ofUser user) := by
    rw [signup_of_prepared hp, Rows.contains_empty]
    rfl
  obtain ⟨hin, htell⟩ := let_in_iff_signed_up .plain issuer Hasher.plain_exact
    [.signup random input now, .login ⟨input.email, input.password⟩ now] [_] [] _ now _ rfl
    fun id => ⟨_, rfl⟩
  have hs : Entry.SignedUp
      (.signup random input now (signup .memory .plain random input now .empty).1)
      input.email input.password (.ofUser user) := ⟨random, input.name, now, by rw [htold]⟩
  obtain ⟨output, ho⟩ := hin.mpr ⟨_, List.mem_singleton_self _, _, hs⟩
  obtain ⟨-, hid, hname, hemail, -⟩ := htell output ho _ (List.mem_singleton_self _) _ hs
  refine ⟨.ofUser user, output, ?_, hid, hname, hemail⟩
  rw [← htold, ← ho]
  rfl

end UserAccounts
