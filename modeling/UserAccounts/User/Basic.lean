/-
# Users

A user has an identifier, an email address, a hash of a password, a name, a
status and the time of creation. `User.create` makes a new one after checking
name and password, in this order; `User.compare` compares a password with the
hash; `User.updateStatus` moves the user to another status. None of them changes
anything else.

Key definitions: `User`, `User.create`, `User.compare`, `User.updateStatus`,
`Status.transition`.
-/
import UserAccounts.Text.Blank
import UserAccounts.Time.Instant
import UserAccounts.User.Id
import UserAccounts.User.Password

namespace UserAccounts

structure User where
  id : Id
  email : String
  passwordHash : Bytes
  name : String
  status : Status
  createdAt : Time.Instant
deriving DecidableEq, Repr

structure Randomness where
  id : Vector UInt8 16
  salt : Salt

def Status.transition (current target : Status) : Except Violation Status :=
  if current = target then .error (.statusUnchanged target)
  else if current.canBecome target then .ok target
  else .error (.statusFinal current target)

def Status.read (given : String) : Except Violation Status :=
  match Status.ofCode? given with
  | some status => .ok status
  | none => .error (.statusUnknown given)

namespace User

/-- Makes a new user, who is active. -/
def create (hasher : Hasher) (random : Randomness) (email password name : String)
    (now : Time.Instant) : Except Refusal User :=
  if Text.allBlank name then .error (.ofViolation .nameMissing)
  else
    match Password.of? password with
    | .error violation => .error (.ofViolation violation)
    | .ok password =>
      match hasher.hash random.salt password with
      | .error refusal => .error refusal
      | .ok passwordHash =>
        .ok { id := .ofRandom random.id, email, passwordHash, name, status := .active,
              createdAt := now }

/-- Whether a password is the user's; one that is too short is refused. -/
def compare (hasher : Hasher) (user : User) (given : String) : Except Refusal Bool :=
  match Password.of? given with
  | .error violation => .error (.ofViolation violation)
  | .ok password => hasher.verify user.passwordHash password

def updateStatus (user : User) (target : Status) : Except Violation User :=
  (user.status.transition target).map fun status => { user with status }

/-- The user with the status that a code names. -/
def updateStatusFrom (user : User) (given : String) : Except Violation User :=
  if Text.allBlank given then .error .statusMissing
  else (Status.read given).bind user.updateStatus

def inspect (user : User) : String :=
  Text.record "User"
    [("id", user.id.toText), ("email", Text.quoted user.email), ("password_hash", Text.redacted),
      ("name", Text.quoted user.name), ("status", user.status.name),
      ("created_at", user.createdAt.toText .shown)]

end User

end UserAccounts
