/-
# What comes of logging in

Somebody is let in exactly as a user who is found, is active and knows the
password, and for whom there is a token.

Key theorems: `checkCredentials_eq_ok_iff`, `authenticate_eq_ok_iff`.
-/
import UserAccounts.Service.Login

namespace UserAccounts

variable {hasher : Hasher} {issuer : Issuer} {user : User} {password : String}
  {now : Time.Instant} {output : LoginOutput}

/-- What is told of a user who is let in with a token. -/
def LoginOutput.ofUser (user : User) (token : AccessToken) : LoginOutput :=
  ⟨token.value, token.expiresAt, user.id, user.name, user.email⟩

theorem checkCredentials_eq_ok_iff :
    checkCredentials hasher user password = .ok () ↔
      user.status = .active ∧ user.compare hasher password = .ok true := by
  unfold checkCredentials
  by_cases hs : user.status = .active
  · rw [if_neg fun hne => hne hs]
    cases user.compare hasher password with
    | error refusal => simp
    | ok fits => cases fits <;> simp [hs]
  · rw [if_pos hs]
    simp [hs]

/-- Somebody is let in exactly as a user who is active, knows the password and gets a token. -/
theorem authenticate_eq_ok_iff {found : Except Failure User} :
    authenticate hasher issuer found password now = .ok output ↔
      ∃ user token, found = .ok user ∧ user.status = .active ∧
        user.compare hasher password = .ok true ∧ issuer user.id now = .ok token ∧
        output = .ofUser user token := by
  constructor
  · intro h
    unfold authenticate at h
    split at h
    · cases h
    · cases h
    · rename_i user
      split at h
      · cases h
      · rename_i hcheck
        split at h
        · cases h
        · rename_i token htoken
          obtain ⟨hstatus, hcompare⟩ := checkCredentials_eq_ok_iff.mp hcheck
          exact ⟨user, token, rfl, hstatus, hcompare, htoken, (Except.ok.inj h).symm⟩
  · rintro ⟨user, token, rfl, hstatus, hcompare, htoken, rfl⟩
    unfold authenticate
    simp only [checkCredentials_eq_ok_iff.mpr ⟨hstatus, hcompare⟩, htoken]
    rfl

end UserAccounts
