/-
# Tokens

A token is three texts in base 64 with dots between them: what kind of token it
is, its claims, and a signature over both. An `Issuer` makes one for a user at an
instant. `Issuer.ofSettings` signs with the secret of the settings.

Key definitions: `AccessToken`, `Issuer`, `signedToken`, `Issuer.ofSettings`.
-/
import UserAccounts.Crypto.Hmac
import UserAccounts.Failure
import UserAccounts.Settings.Basic
import UserAccounts.Text.Base64
import UserAccounts.Token.Claims

namespace UserAccounts

structure AccessToken where
  value : String
  expiresAt : Time.Instant
deriving DecidableEq, Repr

/-- The token, laid open: its text stays hidden. -/
def AccessToken.inspect (t : AccessToken) : String :=
  Text.record "AccessToken"
    [("value", Text.redacted), ("expires_at", t.expiresAt.toText .shown)]

/-- Makes tokens for users. -/
abbrev Issuer := Id → Time.Instant → Except Failure AccessToken

/-- What kind of token it is. -/
def tokenHeader : Json.Value :=
  .object [("typ", .text "JWT"), ("alg", .text "HS256")]

def tokenPart (bytes : Bytes) : List Char :=
  Base64.encode Base64.webSafe bytes

def signedPart (claims : Claims) : List Char :=
  tokenPart (Utf8.encode tokenHeader.toText) ++ '.' ::
    tokenPart (Utf8.encode claims.toJson.toText)

def signature (key : Hmac.Key) (signed : List Char) : Bytes :=
  key.authenticate (Utf8.encode (String.ofList signed))

def signedToken (key : Hmac.Key) (claims : Claims) : String :=
  String.ofList (signedPart claims ++ '.' :: tokenPart (signature key (signedPart claims)))

/-- Signs tokens with a secret, and lets them expire after a number of minutes. -/
def Issuer.ofSettings (settings : TokenSettings) : Issuer := fun id now =>
  match now.addMinutes? settings.ttlMinutes with
  | none => .error (.internal (.expiryOverflow settings.ttlMinutes))
  | some expiresAt =>
    let claims : Claims :=
      { subject := id.toText
        issuedAt := Int64.ofInt now.seconds
        expiresAt := Int64.ofInt expiresAt.seconds }
    .ok { value := signedToken (.ofSecret (Utf8.encode settings.secret)) claims, expiresAt }

def Issuer.failing (failure : Failure) : Issuer := fun _ _ => .error failure

end UserAccounts
