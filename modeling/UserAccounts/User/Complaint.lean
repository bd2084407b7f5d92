/-
# Complaints

What is wrong with an input, told to whoever sent it: a message, and details that
name the offending values, sorted by their keys. The rules for users that an
input can violate are listed as `Violation`.

A `Refusal` is why something was not done to a user: the input was at fault, or
hashing failed or broke down.

Key definitions: `Details`, `Complaint`, `Violation`, `Refusal`.
-/
import UserAccounts.Text.Record
import UserAccounts.User.Status

namespace UserAccounts

/-- Texts under keys, in the order of the keys. -/
structure Details where
  entries : List (String × String)
deriving DecidableEq, Repr

namespace Details

def none : Details := ⟨[]⟩

/-- Puts a value under its key into a sorted list, in place of one that is there. -/
def insertSorted (key value : String) : List (String × String) → List (String × String)
  | [] => [(key, value)]
  | (k, v) :: rest =>
    if key < k then (key, value) :: (k, v) :: rest
    else if key = k then (key, value) :: rest
    else (k, v) :: insertSorted key value rest

def insert (d : Details) (key value : String) : Details :=
  ⟨insertSorted key value d.entries⟩

/-- The details with these keys and values; of two values for a key, the later one. -/
def ofList (entries : List (String × String)) : Details :=
  entries.foldl (fun d e => d.insert e.1 e.2) .none

def isEmpty (d : Details) : Bool :=
  d.entries.isEmpty

end Details

structure Complaint where
  message : String
  details : Details := .none
deriving DecidableEq, Repr

def leastPasswordLength : Nat := 8

inductive Violation where
  | nameMissing
  | passwordTooShort
  | statusMissing
  | statusUnknown (given : String)
  | statusUnchanged (status : Status)
  | statusFinal (current target : Status)
deriving DecidableEq, Repr

def Violation.complaint : Violation → Complaint
  | .nameMissing => { message := "name is required" }
  | .passwordTooShort =>
    { message := s!"password must be at least {leastPasswordLength} characters long" }
  | .statusMissing => { message := "status is required" }
  | .statusUnknown given =>
    { message := "invalid user status", details := .ofList [("status", given)] }
  | .statusUnchanged status =>
    { message := "status is not changed", details := .ofList [("status", status.code)] }
  | .statusFinal current target =>
    { message := "deleted user status cannot transition"
      details := .ofList [("current", current.code), ("target", target.code)] }

/-- Why something was not done to a user. -/
inductive Refusal where
  | invalid (complaint : Complaint)
  | failed (message : String)
  | crashed (message : String)
deriving DecidableEq, Repr

namespace Refusal

def ofViolation (v : Violation) : Refusal :=
  .invalid v.complaint

def isInvalid : Refusal → Bool
  | .invalid _ => true
  | _ => false

def message : Refusal → String
  | .invalid complaint => complaint.message
  | .failed m => s!"Internal error: {m}"
  | .crashed m => m

def inspect : Refusal → String
  | .invalid complaint =>
    Text.record "Validation"
      [("message", Text.quoted complaint.message),
        ("details", Text.mapping complaint.details.entries)]
  | .failed m => "Internal(" ++ Text.quoted m ++ ")"
  | .crashed m => "Crashed(" ++ Text.quoted m ++ ")"

end Refusal

end UserAccounts
