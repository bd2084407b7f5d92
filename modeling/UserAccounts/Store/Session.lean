/-
# Sessions

A session is a list of operations on the kept users, done one after another. A
transaction is an operation that has a list of its own; the operations in it work
within it, those that are `outside` do not, and a transaction inside another is
independent of it. A transaction that is `strict` ends with the first operation
that fails.

Running a session gives a trace: what each operation came to, the state in which
the one before it left off, and the state in which it left off itself.

Key definitions: `Operation`, `Step`, `Session.View`, `Session.run`.
-/
import UserAccounts.Store.Persistence

namespace UserAccounts

/-- How the body of a transaction is to end, if no failure ends it. -/
inductive Intent where
  | commit
  | abort (reason : String)
  | drop
deriving DecidableEq, Repr

inductive Operation where
  | create (user : User)
  | find (email : String)
  | createOutside (user : User)
  | findOutside (email : String)
  /-- Does nothing; the trace shows the state. -/
  | look
  | transaction (operations : List Operation) (intent : Intent) (strict : Bool)

inductive Step (σ : Type) where
  | user (result : Except Failure User) (before after : σ)
  | look (before after : σ)
  | transaction (steps : List (Step σ)) (result : Ending Unit) (before after : σ)

namespace Step

variable {σ : Type}

/-- The state in which the operation before this one left off. -/
def before : Step σ → σ
  | .user _ before _ => before
  | .look before _ => before
  | .transaction _ _ before _ => before

/-- The state in which this operation left off. -/
def after : Step σ → σ
  | .user _ _ after => after
  | .look _ after => after
  | .transaction _ _ _ after => after

def failure? : Step σ → Option Failure
  | .user (.error failure) _ _ => some failure
  | .transaction _ (.failed failure) _ _ => some failure
  | _ => none

end Step

namespace Session

variable {σ δ : Type}

def ending : Intent → Ending Unit
  | .commit => .returned ()
  | .abort reason => .failed (.internal (.other reason))
  | .drop => .dropped

/-- What operations see: what is committed, or what a transaction of state `τ` sees. -/
structure View (σ τ : Type) where
  find : String → τ → σ → Except Failure User × τ × σ
  create : User → τ → σ → Except Failure User × τ × σ

def outside (p : Persistence σ δ) : View σ Unit where
  find email _ s :=
    let (result, s) := p.find email s
    (result, (), s)
  create user _ s :=
    let (result, s) := p.create user s
    (result, (), s)

def inside (p : Persistence σ δ) : View σ δ where
  find := p.findIn
  create := p.createIn

mutual

/-- Does one operation. The operation before it left off in the state `before`; since then, nothing
but the start of a transaction has happened. -/
def runOne (p : Persistence σ δ) {τ : Type} (view : View σ τ) :
    Operation → σ → τ → σ → Step σ × τ × σ
  | .create user, before, t, s =>
    let (result, t, s) := view.create user t s
    (.user result before s, t, s)
  | .find email, before, t, s =>
    let (result, t, s) := view.find email t s
    (.user result before s, t, s)
  | .createOutside user, before, t, s =>
    let (result, s) := p.create user s
    (.user result before s, t, s)
  | .findOutside email, before, t, s =>
    let (result, s) := p.find email s
    (.user result before s, t, s)
  | .look, before, t, s => (.look before s, t, s)
  | .transaction operations intent strict, before, t, s =>
    match p.start s with
    | (.error failure, s) => (.transaction [] (.failed failure) before s, t, s)
    | (.ok d, s) =>
      let (steps, failure?, left, d, s) := runAll p (inside p) operations strict before d s
      let (result, s) := p.close (failure?.elim (ending intent) .failed) d s
      (.transaction steps result left s, t, s)

/-- Does operations one after another; if `strict`, up to the first that fails. Gives the steps,
the failure that ended them, and the state in which the last of them left off. -/
def runAll (p : Persistence σ δ) {τ : Type} (view : View σ τ) :
    List Operation → Bool → σ → τ → σ → List (Step σ) × Option Failure × σ × τ × σ
  | [], _, before, t, s => ([], none, before, t, s)
  | operation :: operations, strict, before, t, s =>
    let (step, t, s) := runOne p view operation before t s
    match step.failure?, strict with
    | some failure, true => ([step], some failure, s, t, s)
    | _, _ =>
      let (steps, rest) := runAll p view operations strict s t s
      (step :: steps, rest)

end

/-- The trace of a session from a state on, and the state in which it ends. -/
def run (p : Persistence σ δ) (operations : List Operation) (s : σ) : List (Step σ) × σ :=
  let (steps, _, _, _, s) := runAll p (outside p) operations false s () s
  (steps, s)

end Session

end UserAccounts
