/-
# Signing up

A new user is made from the input, which may be refused, and then added in a
transaction of its own.

Key definitions: `SignupInput`, `SignupOutput`, `prepare`, `signup`.
-/
import UserAccounts.Store.Persistence

namespace UserAccounts

structure SignupInput where
  email : String
  password : String
  name : String
deriving DecidableEq, Repr

/-- What is told of a new user. -/
structure SignupOutput where
  id : Id
  name : String
  email : String
  status : Status
  createdAt : Time.Instant
deriving DecidableEq, Repr

def SignupOutput.ofUser (user : User) : SignupOutput :=
  ⟨user.id, user.name, user.email, user.status, user.createdAt⟩

/-- Makes the user, who is not added yet. -/
def prepare (hasher : Hasher) (random : Randomness) (input : SignupInput) (now : Time.Instant) :
    Except Failure User :=
  (User.create hasher random input.email input.password input.name now).mapError Failure.ofRefusal

def signup {σ δ : Type} (p : Persistence σ δ) (hasher : Hasher) (random : Randomness)
    (input : SignupInput) (now : Time.Instant) (s : σ) : Except Failure SignupOutput × σ :=
  match prepare hasher random input now with
  | .error failure => (.error failure, s)
  | .ok user =>
    let (result, s) := p.createAlone user s
    (result.map SignupOutput.ofUser, s)

end UserAccounts
