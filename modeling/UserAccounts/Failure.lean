/-
# Failures

Why the service did not do what it was asked to. A client is told that its input
is at fault, or that its credentials are, and otherwise only that something went
wrong inside: `code`, `status` and `publicMessage` say what a client sees, and
`message` and `hidden?` what an operator sees.

Key definitions: `Cause`, `Failure`, `Failure.code`, `Failure.publicMessage`,
`Failure.ofRefusal`.
-/
import UserAccounts.Database.Fault
import UserAccounts.User.Basic

namespace UserAccounts

inductive Cause where
  | emailTaken (email : String)
  | storedStatusUnknown (id : Id) (code : String)
  /-- A token would expire at a time that does not exist. -/
  | expiryOverflow (minutes : Int)
  | crashed (words : String)
  | other (words : String)
deriving DecidableEq, Repr

/-- The words for a cause; the number of the task that broke down is not told. -/
def Cause.message : Cause → String
  | .emailTaken email =>
    s!"duplicate key value violates unique constraint users_email_key ({email})"
  | .storedStatusUnknown id code =>
    s!"user {id.toText} has unknown status code {Text.quoted code}"
  | .expiryOverflow minutes => s!"token ttl of {minutes} minutes overflows the expiry time"
  | .crashed words => s!"blocking task failed: task N panicked with message {Text.quoted words}"
  | .other words => words

inductive Failure where
  | invalid (complaint : Complaint)
  /-- There is no such user, or the password is not the user's. -/
  | invalidCredential
  | notFound
  | database (fault : Database.Fault)
  | signing (words : String)
  | internal (cause : Cause)
deriving DecidableEq, Repr

namespace Failure

def message : Failure → String
  | .invalid complaint => complaint.message
  | .invalidCredential => "invalid credential"
  | .notFound => "Resource not found"
  | .database _ => "Database error"
  | .signing _ => "Token signing error"
  | .internal _ => "Internal server error"

/-- What a failure keeps from clients. -/
def hidden? : Failure → Option String
  | .database fault => some fault.message
  | .signing words => some words
  | .internal cause => some cause.message
  | _ => none

/-- The details of a failure that is the input's. -/
def details : Failure → Details
  | .invalid complaint => complaint.details
  | _ => .none

/-- Whether clients are told nothing of the failure. -/
def isInternal : Failure → Bool
  | .invalid _ => false
  | .invalidCredential => false
  | _ => true

def code : Failure → String
  | .invalid _ => "VALIDATION_ERROR"
  | .invalidCredential => "INVALID_CREDENTIAL"
  | _ => "INTERNAL_ERROR"

def status : Failure → Nat
  | .invalid _ => 400
  | .invalidCredential => 401
  | _ => 500

def publicMessage : Failure → String
  | .invalid complaint => complaint.message
  | .invalidCredential => "invalid credential"
  | _ => "An internal error occurred"

def ofViolation (v : Violation) : Failure :=
  .invalid v.complaint

def ofRefusal : Refusal → Failure
  | .invalid complaint => .invalid complaint
  | .failed words => .internal (.other words)
  | .crashed words => .internal (.crashed words)

end Failure

end UserAccounts
