/-
# Connections that do what they are told

A connection is faithful when it carries out the statements it is sent on a table
of users (`Connection.Faithful`). An insertion gives back its row, unless a row
with the same identifier or the same address is there; then it fails, and may spoil
the transaction it is in, which can only be rolled back after that. A selection
gives a row with the address, if there is one. What a transaction has inserted stays
when it commits, and is gone when it is rolled back. The rows are seen through a
view of the connection's state, and nothing is said of their order.

Over such a connection creating and finding users come to what one expects of the
users whose rows are seen. `Storage` is a connection of this kind, with the rows in a
list.

Key definitions: `Standing`, `Connection.Faithful`, `rowsOf`, `Storage.connection`.
Key theorems: `Connection.Faithful.create_new`, `Connection.Faithful.find_known`,
`Storage.faithful`.
-/
import Mathlib.Data.Set.Insert
import UserAccounts.Proofs.Sql.Row
import UserAccounts.Sql.Connection

namespace UserAccounts.Sql

/-- How things stand with a table, whose rows are held as `α` says. -/
inductive Standing (α : Type) where
  /-- No transaction is under way. -/
  | settled (rows : α)
  /-- A transaction sees these rows, and others are committed. -/
  | within (rows committed : α)
  /-- A statement of the transaction has failed, and it sees nothing any more. -/
  | spoilt (committed : α)

namespace Standing

variable {α β : Type}

def seen? : Standing α → Option α
  | settled rows => some rows
  | within rows _ => some rows
  | spoilt _ => none

def committed : Standing α → α
  | settled rows => rows
  | within _ committed => committed
  | spoilt committed => committed

/-- With other rows to be seen. -/
def change (rows : α) : Standing α → Standing α
  | settled _ => settled rows
  | within _ committed => within rows committed
  | spoilt committed => spoilt committed

def spoil : Standing α → Standing α
  | settled rows => settled rows
  | within _ committed => spoilt committed
  | spoilt committed => spoilt committed

/-- With the rows held in another way. -/
def map (f : α → β) : Standing α → Standing β
  | settled rows => settled (f rows)
  | within rows committed => within (f rows) (f committed)
  | spoilt committed => spoilt (f committed)

end Standing

/-- A row with the same identifier or the same address is among the rows. -/
def Collides (rows : Set Row) (row : Row) : Prop :=
  ∃ other ∈ rows, other.id = row.id ∨ other.email = row.email

variable {κ : Type}

/-- The connection carries out what it is sent on a table of users, and `view` tells how things
stand with it. -/
structure Connection.Faithful (c : Connection κ) (view : κ → Standing (Set Row)) : Prop where
  insert_new : ∀ {k rows row}, (view k).seen? = some rows → ¬ Collides rows row →
    ∃ k', c.query (.insert row) k = (.ok (some row), k') ∧ view k' = (view k).change (insert row rows)
  insert_colliding : ∀ {k rows row}, (view k).seen? = some rows → Collides rows row →
    ∃ fault k', c.query (.insert row) k = (.error fault, k') ∧
      (view k' = view k ∨ view k' = (view k).spoil)
  select : ∀ {k rows} email, (view k).seen? = some rows →
    ∃ answer k', c.query (.selectByEmail email) k = (.ok answer, k') ∧ view k' = view k ∧
      (∀ row, answer = some row → row ∈ rows ∧ row.email = email) ∧
      (answer = none → ∀ row ∈ rows, row.email ≠ email)
  start : ∀ {k rows}, view k = .settled rows →
    ∃ k', c.control .start k = (.ok (), k') ∧ view k' = .within rows rows
  commit : ∀ {k rows committed}, view k = .within rows committed →
    ∃ k', c.control .commit k = (.ok (), k') ∧ view k' = .settled rows
  rollback : ∀ {k}, (∀ rows, view k ≠ .settled rows) →
    ∃ k', c.control .rollback k = (.ok (), k') ∧ view k' = .settled (view k).committed

theorem Connection.send_of_ok {c : Connection κ} {control : Control} {k k' : κ}
    (h : c.control control k = (.ok (), k')) : c.send control k = (.ok (), k') := by
  unfold Connection.send
  rw [h]

/-! ### Rows and users -/

def rowsOf (users : List User) : Set Row :=
  {row | ∃ user ∈ users, row = .ofUser user}

theorem mem_rowsOf {users : List User} {user : User} :
    Row.ofUser user ∈ rowsOf users ↔ user ∈ users := by
  constructor
  · rintro ⟨other, hmem, he⟩
    rwa [Row.ofUser_injective he]
  · exact fun hmem => ⟨user, hmem, rfl⟩

theorem insert_rowsOf (users : List User) (user : User) :
    insert (Row.ofUser user) (rowsOf users) = rowsOf (users ++ [user]) := by
  ext row
  constructor
  · rintro (rfl | ⟨other, hmem, rfl⟩)
    · exact mem_rowsOf.mpr (by simp)
    · exact mem_rowsOf.mpr (by simp [hmem])
  · rintro ⟨other, hmem, rfl⟩
    rcases List.mem_append.mp hmem with hmem | hmem
    · exact .inr (mem_rowsOf.mpr hmem)
    · rw [List.mem_singleton.mp hmem]
      exact .inl rfl

/-- Where an identifier belongs to one address only, rows collide by address. -/
theorem collides_rowsOf_iff {users : List User} {user : User}
    (hids : ∀ other ∈ users, other.id = user.id → other.email = user.email) :
    Collides (rowsOf users) (.ofUser user) ↔ ∃ other ∈ users, other.email = user.email := by
  constructor
  · rintro ⟨_, ⟨other, hmem, rfl⟩, hid | hemail⟩
    · exact ⟨other, hmem, hids other hmem hid⟩
    · exact ⟨other, hmem, hemail⟩
  · rintro ⟨other, hmem, hemail⟩
    have hrow : (Row.ofUser other).email = (Row.ofUser user).email := hemail
    exact ⟨.ofUser other, mem_rowsOf.mpr hmem, .inr hrow⟩

/-! ### Creating and finding users -/

namespace Connection.Faithful

variable {c : Connection κ} {view : κ → Standing (Set Row)} {k : κ} {users : List User} {user : User}

theorem create_new (hc : c.Faithful view) (hseen : (view k).seen? = some (rowsOf users))
    (hids : ∀ other ∈ users, other.id = user.id → other.email = user.email)
    (hnew : ∀ other ∈ users, other.email ≠ user.email) :
    ∃ k', c.create user k = (.ok user, k') ∧
      view k' = (view k).change (rowsOf (users ++ [user])) := by
  have hfree : ¬ Collides (rowsOf users) (.ofUser user) := by
    rw [collides_rowsOf_iff hids]
    rintro ⟨other, hmem, hemail⟩
    exact hnew other hmem hemail
  obtain ⟨k', hquery, hview⟩ := hc.insert_new hseen hfree
  rw [insert_rowsOf] at hview
  refine ⟨k', ?_, hview⟩
  unfold Connection.create
  rw [hquery]
  exact congrArg (·, k') (Row.toUser_ofUser user)

theorem create_colliding (hc : c.Faithful view) (hseen : (view k).seen? = some (rowsOf users))
    (htaken : ∃ other ∈ users, other.email = user.email) :
    ∃ fault k', c.create user k = (.error (.database fault), k') ∧
      (view k' = view k ∨ view k' = (view k).spoil) := by
  obtain ⟨other, hmem, hemail⟩ := htaken
  have hcollides : Collides (rowsOf users) (.ofUser user) :=
    ⟨.ofUser other, mem_rowsOf.mpr hmem, .inr hemail⟩
  obtain ⟨fault, k', hquery, hview⟩ := hc.insert_colliding hseen hcollides
  refine ⟨fault, k', ?_, hview⟩
  unfold Connection.create
  rw [hquery]

/-- A user who is seen is found, if nobody else has the address. -/
theorem find_known (hc : c.Faithful view) (hseen : (view k).seen? = some (rowsOf users))
    (hmem : user ∈ users) (hone : ∀ other ∈ users, other.email = user.email → other = user) :
    ∃ k', c.find user.email k = (.ok user, k') ∧ view k' = view k := by
  obtain ⟨answer, k', hquery, hview, hsome, hnone⟩ := hc.select user.email hseen
  refine ⟨k', ?_, hview⟩
  unfold Connection.find
  rw [hquery]
  cases answer with
  | none => exact absurd rfl (hnone rfl _ (mem_rowsOf.mpr hmem))
  | some row =>
    obtain ⟨⟨other, hother, rfl⟩, hemail⟩ := hsome row rfl
    rw [hone other hother hemail]
    exact congrArg (·, k') (Row.toUser_ofUser user)

theorem find_unknown (hc : c.Faithful view) (hseen : (view k).seen? = some (rowsOf users))
    {email : String} (hnone : ∀ other ∈ users, other.email ≠ email) :
    ∃ k', c.find email k = (.error .notFound, k') ∧ view k' = view k := by
  obtain ⟨answer, k', hquery, hview, hsome, -⟩ := hc.select email hseen
  refine ⟨k', ?_, hview⟩
  unfold Connection.find
  rw [hquery]
  cases answer with
  | none => rfl
  | some row =>
    obtain ⟨⟨other, hother, rfl⟩, hemail⟩ := hsome row rfl
    exact absurd hemail (hnone other hother)

end Connection.Faithful

/-! ### Rows in a list -/

/-- A table of users, with its rows in a list. -/
abbrev Storage := Standing (List Row)

namespace Storage

/-- How things stand with the table, whatever the order of its rows. -/
def view (s : Storage) : Standing (Set Row) :=
  s.map fun rows => {row | row ∈ rows}

/-- Whether the identifier or the address of a row is taken. -/
def isTaken (rows : List Row) (row : Row) : Bool :=
  rows.any fun other => other.id == row.id || other.email == row.email

def duplicate : Database.Fault :=
  .query "duplicate key value violates unique constraint"

def aborted : Database.Fault :=
  .query "current transaction is aborted"

def connection : Connection Storage where
  query statement s :=
    match s.seen?, statement with
    | none, _ => (.error aborted, s)
    | some rows, .insert row =>
      if isTaken rows row then (.error duplicate, s.spoil)
      else (.ok (some row), s.change (rows ++ [row]))
    | some rows, .selectByEmail email => (.ok (rows.find? (·.email == email)), s)
  control
    | .start, s => (.ok (), .within s.committed s.committed)
    | .commit, s => (.ok (), .settled (s.seen?.getD s.committed))
    | .rollback, s => (.ok (), .settled s.committed)
    | .drop, s => (.ok (), .settled s.committed)

theorem isTaken_iff (rows : List Row) (row : Row) :
    isTaken rows row = true ↔ Collides {row | row ∈ rows} row := by
  simp [isTaken, Collides]

theorem exists_seen {s : Storage} {rows : Set Row} (h : s.view.seen? = some rows) :
    ∃ list, s.seen? = some list ∧ rows = {row | row ∈ list} := by
  cases s with
  | settled list => exact ⟨list, rfl, (Option.some.inj h).symm⟩
  | within list committed => exact ⟨list, rfl, (Option.some.inj h).symm⟩
  | spoilt committed => cases h

theorem view_change (s : Storage) (list : List Row) :
    view (s.change list) = s.view.change {row | row ∈ list} := by
  cases s <;> rfl

theorem view_spoil (s : Storage) : view s.spoil = s.view.spoil := by
  cases s <;> rfl

theorem insert_setOf (row : Row) (list : List Row) :
    insert row {other | other ∈ list} = {other | other ∈ list ++ [row]} := by
  ext other
  simp [or_comm]

/-- The connection to a table in a list is faithful. -/
theorem faithful : connection.Faithful view where
  insert_new {s rows row} hseen hnew := by
    obtain ⟨list, hlist, rfl⟩ := exists_seen hseen
    refine ⟨s.change (list ++ [row]), ?_, ?_⟩
    · simp only [connection, hlist]
      rw [if_neg (mt (isTaken_iff list row).mp hnew)]
    · rw [view_change, insert_setOf]
  insert_colliding {s rows row} hseen hcollides := by
    obtain ⟨list, hlist, rfl⟩ := exists_seen hseen
    refine ⟨duplicate, s.spoil, ?_, .inr (view_spoil s)⟩
    simp only [connection, hlist]
    rw [if_pos ((isTaken_iff list row).mpr hcollides)]
  select {s rows} email hseen := by
    obtain ⟨list, hlist, rfl⟩ := exists_seen hseen
    refine ⟨list.find? (·.email == email), s, ?_, rfl, fun row hfound => ?_, fun hnone => ?_⟩
    · simp only [connection, hlist]
    · exact ⟨List.mem_of_find?_eq_some hfound, by simpa using List.find?_some hfound⟩
    · intro row hmem
      simpa using List.find?_eq_none.mp hnone row hmem
  start {s rows} hview := by
    cases s with
    | settled list => exact ⟨.within list list, rfl, by rw [← Standing.settled.inj hview]; rfl⟩
    | within list committed => cases hview
    | spoilt committed => cases hview
  commit {s rows committed} hview := by
    cases s with
    | settled list => cases hview
    | within list committed =>
      exact ⟨.settled list, rfl, by rw [← (Standing.within.inj hview).1]; rfl⟩
    | spoilt committed => cases hview
  rollback {s} _ := ⟨.settled s.committed, rfl, by cases s <;> rfl⟩

end Storage

end UserAccounts.Sql
