/-
# What hashes tell of passwords

A hasher is exact when what it has stored for a password fits this password and no
other (`Hasher.Exact`). `Hasher.plain` is exact, since no two texts have the same
bytes. With an exact hasher a user knows one password, the one that was hashed.

Key definitions: `Hasher.Exact`, `User.Knows`.
Key theorems: `Utf8.encode_injective`, `User.compare_eq_ok_iff`, `Hasher.plain_exact`,
`User.compare_eq_ok_true_iff`.
-/
import Mathlib.Logic.Function.Basic
import UserAccounts.User.Basic

namespace UserAccounts

theorem Utf8.encode_injective : Function.Injective Utf8.encode := by
  intro s t h
  have hlist : s.toList.utf8Encode = t.toList.utf8Encode :=
    congrArg List.toByteArray h
  rw [← String.toByteArray_ofList, ← String.toByteArray_ofList, String.toByteArray_inj,
    String.ofList_toList, String.ofList_toList] at hlist
  exact hlist

/-! ### Passwords -/

theorem Password.eq_of_text {p q : Password} (h : p.text = q.text) : p = q := by
  cases p
  cases q
  cases h
  rfl

theorem Password.of?_eq_ok_iff {text : String} {password : Password} :
    Password.of? text = .ok password ↔ password.text = text := by
  unfold Password.of?
  constructor
  · intro h
    split at h
    · cases h
      rfl
    · cases h
  · rintro rfl
    rw [dif_pos password.least_le_length]

theorem User.compare_of_short (hasher : Hasher) (user : User) {password : String}
    (h : password.length < leastPasswordLength) :
    user.compare hasher password = .error (.ofViolation .passwordTooShort) := by
  have hnone : Password.of? password = .error .passwordTooShort := dif_neg (Nat.not_le_of_lt h)
  unfold User.compare
  rw [hnone]

theorem User.compare_of_long (hasher : Hasher) (user : User) {given : String} {password : Password}
    (h : password.text = given) :
    user.compare hasher given = hasher.verify user.passwordHash password := by
  unfold User.compare
  rw [Password.of?_eq_ok_iff.mpr h]

/-- A comparison comes to an answer exactly as the hasher's, with a password that is long enough. -/
theorem User.compare_eq_ok_iff {hasher : Hasher} {user : User} {given : String} {fits : Bool} :
    user.compare hasher given = .ok fits ↔
      ∃ password : Password, password.text = given ∧
        hasher.verify user.passwordHash password = .ok fits := by
  by_cases hshort : given.length < leastPasswordLength
  · rw [user.compare_of_short hasher hshort]
    constructor
    · intro h
      cases h
    · rintro ⟨password, rfl, -⟩
      exact absurd hshort (Nat.not_lt_of_le password.least_le_length)
  · obtain ⟨password, htext⟩ : ∃ password : Password, password.text = given :=
      ⟨⟨given, Nat.le_of_not_lt hshort⟩, rfl⟩
    rw [user.compare_of_long hasher htext]
    constructor
    · intro hverify
      exact ⟨password, htext, hverify⟩
    · rintro ⟨password', htext', hverify⟩
      rw [← Password.eq_of_text (htext'.trans htext.symm), hverify]

/-! ### Hashers -/

/-- What is stored for a password fits this password and no other. -/
def Hasher.Exact (hasher : Hasher) : Prop :=
  ∀ salt password stored, hasher.hash salt password = .ok stored →
    ∀ given, hasher.verify stored given = .ok (given.text == password.text)

theorem Hasher.plain_exact : Hasher.plain.Exact := by
  rintro salt password stored ⟨⟩ given
  have hbytes : (plainBytes password == plainBytes given) = (given.text == password.text) := by
    rw [Bool.eq_iff_iff, beq_iff_eq, beq_iff_eq]
    unfold plainBytes
    rw [Utf8.encode_injective.eq_iff, String.append_right_inj]
    exact eq_comm
  exact congrArg Except.ok hbytes

/-- The user's hash was made from this password. -/
def User.Knows (hasher : Hasher) (user : User) (text : String) : Prop :=
  ∃ salt password, password.text = text ∧ hasher.hash salt password = .ok user.passwordHash

/-- With an exact hasher exactly the password that was hashed is the user's. -/
theorem User.compare_eq_ok_true_iff {hasher : Hasher} (hh : hasher.Exact) {user : User}
    {text given : String} (h : user.Knows hasher text) :
    user.compare hasher given = .ok true ↔ given = text := by
  obtain ⟨salt, password, rfl, hhash⟩ := h
  rw [User.compare_eq_ok_iff]
  constructor
  · rintro ⟨password', rfl, hverify⟩
    rw [hh salt password _ hhash password'] at hverify
    exact beq_iff_eq.mp (Except.ok.inj hverify)
  · rintro rfl
    refine ⟨password, rfl, ?_⟩
    rw [hh salt password _ hhash password]
    exact congrArg Except.ok (beq_self_eq_true password.text)

end UserAccounts
