/-
# The status of a user

A user is active, frozen or deleted. An active user can be frozen and a frozen
one made active again; either can be deleted, and that is final. A status is
known by a code in capitals, which is read without regard to case.

Key definitions: `Status`, `Status.code`, `Status.ofCode?`, `Status.canBecome`.
-/

namespace UserAccounts

inductive Status where
  | active
  | frozen
  | deleted
deriving DecidableEq, Repr

namespace Status

def all : List Status :=
  [.active, .frozen, .deleted]

/-- The code by which a status is stored and told. -/
def code : Status → String
  | .active => "ACTIVE"
  | .frozen => "FROZEN"
  | .deleted => "DELETED"

def name : Status → String
  | .active => "Active"
  | .frozen => "Frozen"
  | .deleted => "Deleted"

def ofExactCode? (s : String) : Option Status :=
  all.find? (·.code == s)

/-- The status with this code, up to the case of ASCII letters. -/
def ofCode? (s : String) : Option Status :=
  ofExactCode? (String.ofList (s.toList.map Char.toUpper))

/-- Whether a user of one status can be given another. -/
def canBecome : Status → Status → Bool
  | .active, .frozen => true
  | .frozen, .active => true
  | .active, .deleted => true
  | .frozen, .deleted => true
  | _, _ => false

end Status

end UserAccounts
