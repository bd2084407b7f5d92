/-
# Rows of the table of users

A row has the columns of a user, with the code of the status as a text; so a row
can hold a code that is no status's, and then there is no user for it.

Key definitions: `Sql.Row`, `Sql.Row.ofUser`, `Sql.Row.toUser`.
-/
import UserAccounts.Failure

namespace UserAccounts.Sql

structure Row where
  id : Id
  email : String
  passwordHash : Bytes
  name : String
  statusCode : String
  createdAt : Time.Instant
deriving DecidableEq, Repr

def Row.ofUser (user : User) : Row where
  id := user.id
  email := user.email
  passwordHash := user.passwordHash
  name := user.name
  statusCode := user.status.code
  createdAt := user.createdAt

def Row.toUser (row : Row) : Except Failure User :=
  match Status.ofCode? row.statusCode with
  | none => .error (.internal (.storedStatusUnknown row.id row.statusCode))
  | some status =>
    .ok { id := row.id, email := row.email, passwordHash := row.passwordHash, name := row.name,
          status, createdAt := row.createdAt }

end UserAccounts.Sql
