/-
# Connections

A connection takes statements and answers with the first row it finds, and takes
what begins and ends transactions. Over a connection, users are kept in a table:
`Connection.persistence`.

A `Script` is a connection that answers from a list made beforehand and logs all
that reaches it.

Key definitions: `Connection`, `Connection.persistence`, `Script`, `Script.connection`,
`sentDuring`.
-/
import UserAccounts.Sql.Statement
import UserAccounts.Store.Session

namespace UserAccounts.Sql

inductive Control where
  | start
  | commit
  | rollback
  | drop
deriving DecidableEq, Repr

structure Connection (κ : Type) where
  /-- Sends a statement, and gives the first row of the answer. -/
  query : Statement → κ → Except Database.Fault (Option Row) × κ
  control : Control → κ → Except Database.Fault Unit × κ

namespace Connection

variable {κ : Type}

def insertedMissing : Database.Fault :=
  .recordNotFound "Failed to find inserted item"

/-- Adds a user by inserting a row; the answer is the user of the row that is given back. -/
def create (c : Connection κ) (user : User) (k : κ) : Except Failure User × κ :=
  match c.query (.insert (.ofUser user)) k with
  | (.error fault, k) => (.error (.database fault), k)
  | (.ok none, k) => (.error (.database insertedMissing), k)
  | (.ok (some row), k) => (row.toUser, k)

def find (c : Connection κ) (email : String) (k : κ) : Except Failure User × κ :=
  match c.query (.selectByEmail email) k with
  | (.error fault, k) => (.error (.database fault), k)
  | (.ok none, k) => (.error .notFound, k)
  | (.ok (some row), k) => (row.toUser, k)

def send (c : Connection κ) (control : Control) (k : κ) : Except Failure Unit × κ :=
  match c.control control k with
  | (.ok (), k) => (.ok (), k)
  | (.error fault, k) => (.error (.database fault), k)

/-- Keeps users in the table at the other end of a connection. -/
def persistence (c : Connection κ) : Persistence κ Unit where
  find := c.find
  create := c.create
  start := c.send .start
  findIn email _ k :=
    let (result, k) := c.find email k
    (result, (), k)
  createIn user _ k :=
    let (result, k) := c.create user k
    (result, (), k)
  commit _ k := c.send .commit k
  rollback _ k := (c.send .rollback k).2
  drop _ k := (c.send .drop k).2

end Connection

/-! ### Scripts -/

inductive Answer where
  | echo
  | rows (rows : List Row)
  | fault (fault : Database.Fault)
deriving DecidableEq, Repr

inductive Event where
  | control (control : Control)
  | statement (statement : Statement)
deriving DecidableEq, Repr

/-- The answers that are left, and what has come so far, oldest first. -/
structure Script where
  answers : List Answer
  log : List Event := []
deriving DecidableEq, Repr

def Answer.firstRow : Answer → Statement → Except Database.Fault (Option Row)
  | .echo, .insert row => .ok (some row)
  | .echo, .selectByEmail _ => .ok none
  | .rows found, _ => .ok found.head?
  | .fault f, _ => .error f

/-- A connection that answers from a script: one answer for each statement, and no rows when there
are none left. -/
def Script.connection : Connection Script where
  query statement script :=
    let log := script.log ++ [.statement statement]
    match script.answers with
    | [] => (.ok none, { answers := [], log })
    | answer :: answers => (answer.firstRow statement, { answers, log })
  control control script := (.ok (), { script with log := script.log ++ [.control control] })

/-- What reached the connection between the end of the operation before a step and its own. -/
def sentDuring (step : Step Script) : List Event :=
  step.after.log.drop step.before.log.length

end UserAccounts.Sql
