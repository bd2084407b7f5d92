/-
# What is stored for a password

For a password the text of a stored hash is stored, in UTF-8. It is all that is there
when someone comes with a password later: the text is decoded and read, and that
password is hashed as the text says. Nothing is lost on the way (`argon2_verify`), so the
password for which it was stored fits, and another fits exactly if it has the same
digest under the same salt; there is always an answer. Only a password of 2³² bytes or
more has no digest. It cannot be stored, and fits nothing.

Key definitions: `Password.digest`.
Key theorems: `Hasher.argon2_hash`, `Hasher.argon2_verify`, `stored_for_password`.
-/
import Mathlib.Algebra.Group.Nat.Defs
import UserAccounts.Proofs.Crypto.StoredHash
import UserAccounts.Proofs.Text.Utf8
import UserAccounts.User.Password

namespace UserAccounts

/-- The Argon2id digest of a password under a salt, for which the password must not be too long. -/
def Password.digest (password : Password) (salt : Salt) : Bytes :=
  Argon2.hash .id .v19 { memory := 19456, passes := 2, lanes := 1 } password.bytes salt.toList 32

variable {salt : Salt} {password : Password}

theorem Password.length_digest (password : Password) (salt : Salt) :
    (password.digest salt).length = 32 :=
  Argon2.length_hash (by decide) ..

theorem StoredHash.le_mostPassword_iff {size : Nat} : size ≤ mostPassword ↔ size < 2 ^ 32 := by
  have hmost : mostPassword = 2 ^ 32 - 1 := rfl
  omega

namespace Hasher

/-- The text that is stored for a password. -/
def storedText (salt : Salt) (password : Password) : String :=
  (StoredHash.filled salt.toList (password.digest salt)).toText

theorem argon2_hash (h : password.bytes.length < 2 ^ 32) :
    argon2.hash salt password = .ok (Utf8.encode (storedText salt password)) := by
  have hshort := Nat.not_lt.mpr (StoredHash.le_mostPassword_iff.mpr h)
  have hfilled : StoredHash.ofPassword password.bytes salt.toList =
      StoredHash.filled salt.toList (password.digest salt) := StoredHash.ofPassword_eq_filled ..
  unfold storedText
  rw [← hfilled]
  exact if_neg hshort

theorem storedText_eq (salt : Salt) (password : Password) :
    storedText salt password =
      "$argon2id$v=19$m=19456,t=2,p=1$" ++
        String.ofList (Base64.encode Base64.plain salt.toList) ++ "$" ++
        String.ofList (Base64.encode Base64.plain (password.digest salt)) := by
  rw [← String.toList_inj]
  unfold storedText StoredHash.toText
  rw [StoredHash.textChars_filled]
  simp

/-- Whether another password fits what was stored: it is long enough to be hashed, and has the same
digest. -/
theorem argon2_verify (salt : Salt) (password other : Password) :
    argon2.verify (Utf8.encode (storedText salt password)) other =
      .ok (decide (other.bytes.length < 2 ^ 32 ∧ other.digest salt = password.digest salt)) := by
  have hsalt : salt.toList.length = 16 := salt.length_toList
  have hdigest := password.length_digest salt
  have hread : StoredHash.read (storedText salt password).toList =
      .ok (StoredHash.filled salt.toList (password.digest salt)) := by
    unfold storedText StoredHash.toText
    rw [String.toList_ofList]
    exact StoredHash.read_filled (by omega) (by rw [hdigest]; decide)
  have hmatches : (StoredHash.filled salt.toList (password.digest salt)).matchesPassword other.bytes =
      .ok (decide (other.bytes.length < 2 ^ 32 ∧ other.digest salt = password.digest salt)) := by
    rw [StoredHash.matchesPassword_filled (by omega), hdigest]
    simp only [StoredHash.le_mostPassword_iff]
    rfl
  unfold argon2
  simp only [Utf8.decode_encode, hread, hmatches]

end Hasher

/-- **What is stored for a password fits it.** For a password of fewer than 2³² bytes and any salt a
text is stored that names the algorithm, its version and its cost, and then the salt and the digest
in 22 and 43 digits of base 64. The password fits it, and any other fits exactly if it has a digest
under this salt and it is the same one; whoever comes is answered. -/
theorem stored_for_password (salt : Salt) (password : Password)
    (h : password.bytes.length < 2 ^ 32) :
    ∃ stored saltDigits digits, Hasher.argon2.hash salt password = .ok stored ∧
      Utf8.decode stored = .ok ("$argon2id$v=19$m=19456,t=2,p=1$" ++ String.ofList saltDigits ++
        "$" ++ String.ofList digits) ∧
      (saltDigits.length = 22 ∧ Base64.decode Base64.plain saltDigits = some salt.toList) ∧
      (digits.length = 43 ∧ Base64.decode Base64.plain digits = some (password.digest salt)) ∧
      (∀ c ∈ saltDigits ++ digits, c.isAlphanum = true ∨ c = '+' ∨ c = '/') ∧
      Hasher.argon2.verify stored password = .ok true ∧
      ∀ other : Password, Hasher.argon2.verify stored other =
        .ok (decide (other.bytes.length < 2 ^ 32 ∧ other.digest salt = password.digest salt)) := by
  have hverify := Hasher.argon2_verify salt password
  refine ⟨_, Base64.encode Base64.plain salt.toList,
    Base64.encode Base64.plain (password.digest salt), Hasher.argon2_hash h, ?_, ⟨?_, ?_⟩,
    ⟨?_, ?_⟩, ?_, ?_, hverify⟩
  · rw [Utf8.decode_encode, Hasher.storedText_eq]
  · rw [Base64.length_encode, salt.length_toList]
  · exact Base64.decode_encode Base64.plain_legible _
  · rw [Base64.length_encode, password.length_digest]
  · exact Base64.decode_encode Base64.plain_legible _
  · intro c hc
    rcases List.mem_append.mp hc with hc | hc
    all_goals
      obtain ⟨n, hn, rfl⟩ := Base64.exists_digit_of_mem_encode hc
      exact Base64.plain_digit hn
  · rw [hverify, decide_eq_true ⟨h, rfl⟩]

/-- A password of sixteen bytes in eight characters, none of them of ASCII, under a salt of zeros.
-/
theorem stored_for_accents :
    let password : Password := ⟨"éééééééé", by decide⟩
    let salt : Salt := .replicate 16 0
    password.bytes.length < 2 ^ 32 ∧ ∃ stored, Hasher.argon2.hash salt password = .ok stored ∧
      Hasher.argon2.verify stored password = .ok true := by
  intro password salt
  have hshort : password.bytes.length < 2 ^ 32 := by decide
  obtain ⟨stored, -, -, hstored, -, -, -, -, hverify, -⟩ := stored_for_password salt password hshort
  exact ⟨hshort, stored, hstored, hverify⟩

end UserAccounts
