/-
# Passwords and their hashes

A password has at least eight characters; `Password` carries the proof. A
`Hasher` turns a password and a salt into bytes to be stored, and tells whether a
password fits such bytes. It may refuse either, for any reason of a `Refusal`.

`Hasher.argon2` is the one for real use. `Hasher.plain` keeps the password
readable, for runs in which hashing is not to cost anything; `Hasher.broken` and
`Hasher.crashing` show what comes of a hasher that fails or breaks down.

Key definitions: `Password.of?`, `Hasher`, `Hasher.argon2`, `Hasher.plain`.
-/
import UserAccounts.Crypto.StoredHash
import UserAccounts.User.Complaint

namespace UserAccounts

structure Password where
  text : String
  least_le_length : leastPasswordLength ≤ text.length

def Password.of? (text : String) : Except Violation Password :=
  if h : leastPasswordLength ≤ text.length then .ok ⟨text, h⟩ else .error .passwordTooShort

/-- The password, laid open: its text stays hidden. -/
def Password.inspect (_ : Password) : String :=
  "Password(" ++ Text.redacted ++ ")"

def Password.bytes (p : Password) : Bytes :=
  Utf8.encode p.text

/-- Sixteen random bytes that make two hashes of one password differ. -/
abbrev Salt := Vector UInt8 16

/-- A way of hashing passwords. Like whatever is done to a user it may find fault with the input,
fail, or break down. -/
structure Hasher where
  hash : Salt → Password → Except Refusal Bytes
  verify : Bytes → Password → Except Refusal Bool

namespace Hasher

/-- Hashes with Argon2id; the stored bytes are the text of the `StoredHash`. -/
def argon2 : Hasher where
  hash salt password :=
    if StoredHash.mostPassword < password.bytes.length then
      .error (.failed "Password hash failed: invalid password")
    else .ok (Utf8.encode (StoredHash.ofPassword password.bytes salt.toList).toText)
  verify stored password :=
    match Utf8.decode stored with
    | .error defect => .error (.failed s!"Invalid hash encoding: {defect.message}")
    | .ok text =>
      match StoredHash.read text.toList with
      | .error fault => .error (.failed s!"Invalid hash format: {fault.message}")
      | .ok stored =>
        match stored.matchesPassword password.bytes with
        | .error fault => .error (.failed s!"Password verify failed: {fault.message}")
        | .ok fits => .ok fits

def plainBytes (password : Password) : Bytes :=
  Utf8.encode ("plain:" ++ password.text)

/-- Stores the password itself. -/
def plain : Hasher where
  hash _ password := .ok (plainBytes password)
  verify stored password := .ok (stored == plainBytes password)

def broken : Hasher where
  hash _ _ := .error (.failed "hasher offline")
  verify _ _ := .error (.failed "malformed hash")

def crashing : Hasher where
  hash _ _ := .error (.crashed "hash panicked")
  verify _ _ := .error (.crashed "verify panicked")

end Hasher

end UserAccounts
