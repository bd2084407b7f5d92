/-
# Keeping users

What it takes to keep users in a state of type `σ`: to find and create them, and
to do so in a transaction, whose own state has type `δ`. A transaction ends in one
of three ways: its body returns, and it is committed; its body fails, and it is
rolled back; it is dropped half way.

Key definitions: `Persistence`, `Ending`, `Persistence.close`,
`Persistence.memory`.
-/
import UserAccounts.Store.Rows

namespace UserAccounts

structure Persistence (σ δ : Type) where
  find : String → σ → Except Failure User × σ
  create : User → σ → Except Failure User × σ
  start : σ → Except Failure δ × σ
  findIn : String → δ → σ → Except Failure User × δ × σ
  createIn : User → δ → σ → Except Failure User × δ × σ
  /-- Makes what a transaction has done last. -/
  commit : δ → σ → Except Failure Unit × σ
  rollback : δ → σ → σ
  /-- Forgets a transaction that was dropped half way. -/
  drop : δ → σ → σ

/-- How a transaction, or its body, ends. -/
inductive Ending (α : Type) where
  | returned (value : α)
  | failed (failure : Failure)
  | dropped
deriving DecidableEq, Repr

namespace Persistence

variable {σ δ α : Type}

def close (p : Persistence σ δ) : Ending α → δ → σ → Ending α × σ
  | .returned value, d, s =>
    match p.commit d s with
    | (.ok (), s) => (.returned value, s)
    | (.error failure, s) => (.failed failure, s)
  | .failed failure, d, s => (.failed failure, p.rollback d s)
  | .dropped, d, s => (.dropped, p.drop d s)

def createAlone (p : Persistence σ δ) (user : User) (s : σ) : Except Failure User × σ :=
  match p.start s with
  | (.error failure, s) => (.error failure, s)
  | (.ok d, s) =>
    match p.createIn user d s with
    | (.ok user, d, s) =>
      match p.commit d s with
      | (.ok (), s) => (.ok user, s)
      | (.error failure, s) => (.error failure, s)
    | (.error failure, d, s) => (.error failure, p.rollback d s)

def memory : Persistence Rows Draft where
  find email rows := (rows.find email, rows)
  create user rows :=
    match rows.create user with
    | .ok more => (.ok user, more)
    | .error failure => (.error failure, rows)
  start rows := (.ok .empty, rows)
  findIn email draft rows := (draft.find rows email, draft, rows)
  createIn user draft rows :=
    match draft.create rows user with
    | .ok more => (.ok user, more, rows)
    | .error failure => (.error failure, draft, rows)
  commit draft rows :=
    match draft.commit rows with
    | .ok more => (.ok (), more)
    | .error failure => (.error failure, rows)
  rollback _ rows := rows
  drop _ rows := rows

/-- A way of keeping users, but finding one outside transactions fails. -/
def findFailing (failure : Failure) (p : Persistence σ δ) : Persistence σ δ :=
  { p with find := fun _ s => (.error failure, s) }

/-- A way of keeping users, but adding one within a transaction fails. -/
def createFailing (failure : Failure) (p : Persistence σ δ) : Persistence σ δ :=
  { p with createIn := fun _ d s => (.error failure, d, s) }

end Persistence

end UserAccounts
