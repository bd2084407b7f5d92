/-
# Addresses of committed users

Whatever is asked of a service that begins without users, every address that it has
committed has been taken from a form (`converse_taken`), so it is plain or loose
(`committed_plain_or_loose`): it has a blank, a control character or anything else that
does not belong into a host only if its host ends in an internet address between brackets.

That is not ruled out: a request to sign up with a blank before the brackets is answered
201, and the address is committed as it is (`blank_committed`).

Key definition: `Rows.Taken`.
Key theorems: `respond_taken`, `converse_taken`, `exists_committed`,
`committed_plain_or_loose`, `blank_committed`.
-/
import UserAccounts.Proofs.Email.Address
import UserAccounts.Proofs.Http.Signup

namespace UserAccounts

/-- Every user is kept under the user's own address, and the address is one that is taken. -/
def Rows.Taken (rows : Rows) : Prop :=
  ∀ entry ∈ rows.entries, entry.2.email = entry.1 ∧ Email.isAddress entry.1 = true

theorem Rows.taken_empty : Rows.empty.Taken :=
  fun _ hentry => absurd hentry List.not_mem_nil

theorem Rows.Taken.extend {rows : Rows} (h : rows.Taken) {user : User}
    (haddress : Email.isAddress user.email = true) : (rows.extend [user]).Taken := by
  intro entry hentry
  rcases List.mem_append.mp hentry with hentry | hentry
  · exact h entry hentry
  · obtain rfl := List.mem_singleton.mp hentry
    exact ⟨rfl, haddress⟩

namespace Http

section

variable (hasher : Hasher) (issuer : Issuer)

/-- An address that is added stood in a form that was read. -/
theorem respond_taken (m : Moment) (r : Request) {rows : Rows} (h : rows.Taken) :
    (Site.respond ⟨.memory, hasher, issuer⟩ m r rows).2.Taken := by
  rcases respond_memory_cases hasher issuer m r rows with
    ⟨hrows, -⟩ | ⟨form, user, -, hform, hprepare, -, hcomes⟩
  · rwa [hrows]
  · obtain ⟨-, -, -, herrors⟩ := readForm_eq_ok_iff.mp hform
    obtain ⟨haddress, -, -⟩ := signupForm_errors_isEmpty_iff.mp herrors
    obtain ⟨-, password, hash, -, -, rfl⟩ := prepare_eq_ok_iff.mp hprepare
    rw [hcomes]
    exact h.extend haddress

/-- So did all addresses that are committed in the end. -/
theorem converse_taken (calls : List (Moment × Request)) {rows : Rows} (h : rows.Taken) :
    (Site.converse ⟨.memory, hasher, issuer⟩ calls rows).2.Taken := by
  induction calls generalizing rows with
  | nil => exact h
  | cons call calls ih =>
    obtain ⟨m, r⟩ := call
    rw [Site.converse_cons]
    exact ih (respond_taken hasher issuer m r h)

/-- The first request of all that signs somebody up has just this user committed. -/
theorem exists_committed {r : Request} {form : SignupForm} (h : r.SignsUp .empty form)
    (issuer : Issuer) (m : Moment) :
    ∃ user : User, user.email = form.email ∧
      (Site.converse ⟨.memory, .plain, issuer⟩ [(m, r)] .empty).2.entries =
        [(form.email, user)] := by
  obtain ⟨user, hemail, -, -, -, hcomes⟩ :=
    respond_of_signsUp Hasher.plain_alwaysHashes h issuer m
  have hrows : (Site.converse ⟨.memory, .plain, issuer⟩ [(m, r)] .empty).2 =
      Rows.empty.extend [user] := congrArg Prod.snd hcomes
  have hadded : (Rows.empty.extend [user]).entries = [(user.email, user)] := rfl
  exact ⟨user, hemail, by rw [hrows, hadded, hemail]⟩

/-- **Committed addresses are plain, but for those that end loosely.** A service that begins without
users is asked anything, one request after another. Then every address of a committed user is plain:
nothing in it is a blank or a control character, and behind its last `@` there stands, as a whole, a
host name, perhaps an internationalized one, or an internet address between brackets. Or what stands
behind its last `@` is neither, but ends in an internet address between brackets, itself or in its
form in ASCII. -/
theorem committed_plain_or_loose (calls : List (Moment × Request)) :
    ∀ entry ∈ (Site.converse ⟨.memory, hasher, issuer⟩ calls Rows.empty).2.entries,
      entry.2.email = entry.1 ∧ (Email.IsPlain entry.1 ∨ Email.IsLoose entry.1) := by
  intro entry hentry
  obtain ⟨hemail, haddress⟩ := converse_taken hasher issuer calls Rows.taken_empty entry hentry
  exact ⟨hemail, Email.plain_or_loose haddress⟩

end

/-- Ada signs up, and her address is plain. -/
theorem ada_committed_plain :
    let now : Time.Instant := ⟨0, 0, by decide, by decide, by decide⟩
    let m : Moment := ⟨now, ⟨.replicate 16 0, .replicate 16 0⟩, .inMemory⟩
    let site : Site Rows Draft := ⟨.memory, .plain, fun id now => .ok ⟨id.toText, now⟩⟩
    let request := signupRequest ⟨"ada@example.com", "password", "Ada"⟩
    ∃ ada : User, (site.converse [(m, request)] .empty).2.entries = [("ada@example.com", ada)] ∧
      Email.IsPlain "ada@example.com" := by
  intro now m site request
  have hsigns : request.SignsUp .empty ⟨"ada@example.com", "password", "Ada"⟩ :=
    signsUp_signupRequest (by decide) (by decide) ⟨'A', by decide, by decide⟩ (by decide)
      (by decide)
  obtain ⟨ada, -, hcommitted⟩ := exists_committed hsigns site.issuer m
  refine ⟨ada, hcommitted, ?_⟩
  have hentry : ("ada@example.com", ada) ∈ (site.converse [(m, request)] .empty).2.entries :=
    hcommitted.symm ▸ List.mem_singleton_self _
  obtain ⟨-, hplain | ⟨name, host, hparts, hname, -⟩⟩ :=
    committed_plain_or_loose .plain site.issuer [(m, request)] _ hentry
  · exact hplain
  · have hsplit : Email.splitAtLastAt "ada@example.com".toList = some (name, host) :=
      Email.splitAtLastAt_eq_some_iff.mpr ⟨hparts.whole, hparts.last⟩
    have hexample : Email.splitAtLastAt "ada@example.com".toList =
        some ("ada".toList, "example.com".toList) := by decide
    rw [hexample] at hsplit
    obtain ⟨-, rfl⟩ := Prod.mk.inj (Option.some.inj hsplit)
    exact absurd (.inl (by decide)) hname

/-- A request signs up with an address that has a blank before the brackets, and the address is
committed. -/
theorem blank_committed :
    let now : Time.Instant := ⟨0, 0, by decide, by decide, by decide⟩
    let m : Moment := ⟨now, ⟨.replicate 16 0, .replicate 16 0⟩, .inMemory⟩
    let site : Site Rows Draft := ⟨.memory, .plain, fun id now => .ok ⟨id.toText, now⟩⟩
    let request := signupRequest ⟨"a@ [::1]", "password", "Test"⟩
    ∃ user : User, user.email = "a@ [::1]" ∧
      (site.converse [(m, request)] .empty).2.entries = [("a@ [::1]", user)] ∧
      ¬ Email.IsPlain user.email := by
  intro now m site request
  have hsigns : request.SignsUp .empty ⟨"a@ [::1]", "password", "Test"⟩ :=
    signsUp_signupRequest (by decide) (by decide) ⟨'T', by decide, by decide⟩ (by decide)
      (by decide)
  obtain ⟨user, hemail, hcommitted⟩ := exists_committed hsigns site.issuer m
  refine ⟨user, hemail, hcommitted, fun hplain => ?_⟩
  have hseen := hplain.seen ' ' (by rw [hemail]; decide)
  exact absurd hseen (by decide)

end Http

end UserAccounts
