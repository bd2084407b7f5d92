/-
# Logging in

A user is found by email address, has to be active, and has to know the password;
then a token is issued. Whoever cannot log in is not told which of the three was
amiss.

Key definitions: `LoginInput`, `LoginOutput`, `authenticate`, `login`.
-/
import UserAccounts.Store.Persistence
import UserAccounts.Token.Issuer

namespace UserAccounts

structure LoginInput where
  email : String
  password : String
deriving DecidableEq, Repr

structure LoginOutput where
  token : String
  expiresAt : Time.Instant
  userId : Id
  userName : String
  userEmail : String
deriving DecidableEq, Repr

/-- Whether the user may be let in: is active, and knows the password. -/
def checkCredentials (hasher : Hasher) (user : User) (password : String) : Except Failure Unit :=
  if user.status ≠ .active then .error .invalidCredential
  else
    match user.compare hasher password with
    | .error refusal => .error (.ofRefusal refusal)
    | .ok false => .error .invalidCredential
    | .ok true => .ok ()

/-- Lets a user in, given what came of looking for one. -/
def authenticate (hasher : Hasher) (issuer : Issuer) (found : Except Failure User)
    (password : String) (now : Time.Instant) : Except Failure LoginOutput :=
  match found with
  | .error .notFound => .error .invalidCredential
  | .error failure => .error failure
  | .ok user =>
    match checkCredentials hasher user password with
    | .error failure => .error failure
    | .ok () =>
      match issuer user.id now with
      | .error failure => .error failure
      | .ok token =>
        .ok { token := token.value, expiresAt := token.expiresAt, userId := user.id,
              userName := user.name, userEmail := user.email }

def login {σ δ : Type} (p : Persistence σ δ) (hasher : Hasher) (issuer : Issuer)
    (input : LoginInput) (now : Time.Instant) (s : σ) : Except Failure LoginOutput × σ :=
  let (found, s) := p.find input.email s
  (authenticate hasher issuer found input.password now, s)

end UserAccounts
