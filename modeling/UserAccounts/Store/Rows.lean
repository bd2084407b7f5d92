/-
# Rows in memory

The committed users, each under an email address, and the drafts of transactions.
A draft holds the users that a transaction has created and not yet committed; it
sees them and what is committed, and nobody else sees them. Committing puts all
of them among the rows, or none if one of their addresses has been taken.

Key definitions: `Rows`, `Rows.create`, `Draft`, `Draft.create`, `Draft.find`,
`Draft.commit`.
-/
import UserAccounts.Failure

namespace UserAccounts

/-- The committed users, each under an email address. -/
structure Rows where
  entries : List (String × User)
deriving DecidableEq, Repr

/-- The failure to create a user whose email address is taken. -/
def emailTaken (user : User) : Failure :=
  .internal (.emailTaken user.email)

namespace Rows

def empty : Rows := ⟨[]⟩

def size (rows : Rows) : Nat :=
  rows.entries.length

def get? (rows : Rows) (email : String) : Option User :=
  (rows.entries.find? (·.1 == email)).map (·.2)

def contains (rows : Rows) (email : String) : Bool :=
  rows.entries.any (·.1 == email)

/-- Puts a user under an address into a list, in place of one that is there. -/
def insertEntry (email : String) (user : User) : List (String × User) → List (String × User)
  | [] => [(email, user)]
  | (e, u) :: rest =>
    if e = email then (email, user) :: rest else (e, u) :: insertEntry email user rest

def insert (rows : Rows) (email : String) (user : User) : Rows :=
  ⟨insertEntry email user rows.entries⟩

def find (rows : Rows) (email : String) : Except Failure User :=
  match rows.get? email with
  | some user => .ok user
  | none => .error .notFound

/-- Adds a user, unless the address is taken. -/
def create (rows : Rows) (user : User) : Except Failure Rows :=
  if rows.contains user.email then .error (emailTaken user)
  else .ok (rows.insert user.email user)

end Rows

/-- The users that a transaction has created, oldest first. -/
structure Draft where
  users : List User
deriving DecidableEq, Repr

namespace Draft

def empty : Draft := ⟨[]⟩

def contains (draft : Draft) (email : String) : Bool :=
  draft.users.any (·.email == email)

/-- Finds the user with an address: the draft's own, or else a committed one. -/
def find (draft : Draft) (rows : Rows) (email : String) : Except Failure User :=
  match draft.users.find? (·.email == email) with
  | some user => .ok user
  | none => rows.find email

/-- Adds a user, unless the address is taken in the draft or among the rows. -/
def create (draft : Draft) (rows : Rows) (user : User) : Except Failure Draft :=
  if draft.contains user.email || rows.contains user.email then .error (emailTaken user)
  else .ok ⟨draft.users ++ [user]⟩

/-- Puts all users of the draft among the rows; it fails for the first whose address is taken
there. -/
def commit (draft : Draft) (rows : Rows) : Except Failure Rows :=
  match draft.users.find? (fun user => rows.contains user.email) with
  | some user => .error (emailTaken user)
  | none => .ok (draft.users.foldl (fun rows user => rows.insert user.email user) rows)

end Draft

end UserAccounts
