/-
# Claims

What a token says: whose it is, since when and up to when it holds, in seconds
since 1970.

Key definitions: `Claims`, `Claims.toJson`, `Claims.ofJson`.
-/
import UserAccounts.Json.Record
import UserAccounts.Json.Value
import UserAccounts.Text.Record

namespace UserAccounts

structure Claims where
  subject : String
  issuedAt : Int64
  expiresAt : Int64
deriving DecidableEq, Repr

def Claims.shape : Json.Shape :=
  ⟨"Claims", [("sub", .text), ("iat", .integer Json.signed64), ("exp", .integer Json.signed64)]⟩

def Claims.toJson (c : Claims) : Json.Value :=
  .object [("sub", .text c.subject), ("iat", .number c.issuedAt.toInt),
    ("exp", .number c.expiresAt.toInt)]

def Claims.ofJson (text : Bytes) : Except Json.Problem Claims := do
  let (subject, issuedAt, expiresAt, ()) ← Json.readRecord Claims.shape text
  .ok { subject, issuedAt := Int64.ofInt issuedAt, expiresAt := Int64.ofInt expiresAt }

def Claims.inspect (c : Claims) : String :=
  Text.record "Claims"
    [("sub", Text.quoted c.subject), ("iat", toString c.issuedAt.toInt),
      ("exp", toString c.expiresAt.toInt)]

end UserAccounts
