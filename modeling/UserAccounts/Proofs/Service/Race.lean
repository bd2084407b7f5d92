/-
# Signing up at the same time

Several sign up at once. The steps of each are to look at the input and hash the
password, to create the user in a transaction, and to commit it; they are mixed in
any order. One alone comes to what `signup` comes to (`run_alone`).

Whoever has been accepted is the only one with this address, and the row under it
is theirs; whoever has been refused has violated a rule or finds the address taken
(`Contest`). Each step keeps this, since rows are never replaced and nobody is
accepted under an address that is taken. In the end every address that was free and
that somebody wanted who violates no rule has exactly one winner
(`exactly_one_accepted`).

Key definitions: `Attempt`, `Plan.toAdd`, `Progress.answer?`, `Contest`.
Key theorems: `run_alone`, `Contest.step`, `isOver_advanceAll`,
`exactly_one_accepted`.
-/
import Mathlib.Data.List.Count
import Mathlib.Logic.Function.Iterate
import UserAccounts.Proofs.Service.Signup
import UserAccounts.Proofs.Store.Crowd

namespace UserAccounts

/-- Somebody's attempt to sign up. -/
structure Attempt where
  input : SignupInput
  random : Randomness
  now : Time.Instant

namespace Attempt

def Wants (a : Attempt) (email : String) : Prop :=
  a.input.violation? = none ∧ a.input.email = email

/-- The user that an attempt is to add, or why there is none. -/
def prepared (hasher : Hasher) (a : Attempt) : Except Failure User :=
  prepare hasher a.random a.input a.now

theorem exists_prepared {hasher : Hasher}
    (hh : ∀ salt password, ∃ hash, hasher.hash salt password = .ok hash) {a : Attempt}
    {email : String} (h : a.Wants email) :
    ∃ user, a.prepared hasher = .ok user ∧ user.email = email := by
  obtain ⟨hvalid, rfl⟩ := h
  obtain ⟨password, hp⟩ := exists_password hvalid
  obtain ⟨hash, hhash⟩ := hh a.random.salt password
  exact ⟨a.input.user a.random hash a.now,
    prepare_eq_ok_iff.mpr ⟨hvalid, password, hash, hp, hhash, rfl⟩, rfl⟩

theorem wants_of_prepared {hasher : Hasher} {a : Attempt} {user : User}
    (h : a.prepared hasher = .ok user) : a.Wants user.email := by
  obtain ⟨hvalid, password, hash, -, -, rfl⟩ := prepare_eq_ok_iff.mp h
  exact ⟨hvalid, rfl⟩

end Attempt

/-- To create one user in a transaction, if there is one. -/
def Plan.toAdd (user : Except Failure User) : Plan :=
  user.map fun user => .transaction [user]

/-- The answer to an attempt that has come to this progress. -/
def Progress.answer? {δ : Type} : Progress δ → Option (Except Failure SignupOutput)
  | .ended (.returned (user :: _)) => some (.ok (.ofUser user))
  | .ended (.failed failure) => some (.error failure)
  | _ => none

namespace Crowd

variable {ι σ δ : Type}

/-- Everybody starts to sign up. -/
def ofAttempts (hasher : Hasher) (attempts : ι → Attempt) (s : σ) : Crowd ι σ δ :=
  initial (fun i => .preparing (.toAdd ((attempts i).prepared hasher))) s

/-- Everybody goes on in this order. -/
def advanceAll [DecidableEq ι] (p : Persistence σ δ) (c : Crowd ι σ δ) (order : List ι) :
    Crowd ι σ δ :=
  c.run p (order.map fun i => (i, .advance))

/-- Advancing one alone is to repeat its steps. -/
theorem advanceAll_replicate [DecidableEq ι] (p : Persistence σ δ) (i : ι) :
    ∀ (n : Nat) (c : Crowd ι σ δ),
    ((c.advanceAll p (.replicate n i)).progress i, (c.advanceAll p (.replicate n i)).kept) =
      (fun r => r.1.advance p r.2)^[n] (c.progress i, c.kept)
  | 0, _ => rfl
  | n + 1, c => by
    rw [Function.iterate_succ_apply, ← move_advance]
    exact advanceAll_replicate p i n (c.move p (i, .advance))

/-- **One attempt alone**, in four steps, comes to what signing up comes to. -/
theorem run_alone [DecidableEq ι] (p : Persistence σ δ) (hasher : Hasher)
    (attempts : ι → Attempt) (i : ι) (s : σ) :
    let c := (ofAttempts hasher attempts s).advanceAll p (.replicate 4 i)
    let alone := signup p hasher (attempts i).random (attempts i).input (attempts i).now s
    (c.progress i).answer? = some alone.1 ∧ c.kept = alone.2 := by
  intro c alone
  obtain ⟨hp, hk⟩ := Prod.mk.inj (advanceAll_replicate p i 4 (ofAttempts hasher attempts s))
  rw [show c.progress i = _ from hp, show c.kept = _ from hk]
  simp only [alone, ofAttempts, initial, Attempt.prepared, signup]
  cases prepare hasher (attempts i).random (attempts i).input (attempts i).now with
  | error failure => exact ⟨rfl, rfl⟩
  | ok user =>
    rw [show Plan.toAdd (.ok user) = .ok (.transaction [user]) from rfl]
    simp only [Progress.advance, Persistence.createAlone]
    rcases p.start s with ⟨failure | draft, s₁⟩
    · exact ⟨rfl, rfl⟩
    · simp only
      rcases p.createIn user draft s₁ with ⟨failure | made, draft₂, s₂⟩
      · exact ⟨rfl, rfl⟩
      · simp only [List.nil_append, Persistence.close]
        rcases p.commit draft₂ s₂ with ⟨failure | ⟨⟩, s₃⟩ <;> exact ⟨rfl, rfl⟩

/-! ### Contests -/

/-- How things stand between several who sign up: `users` are those to be added, and `rows` what
was there at the start. -/
structure Contest (users : ι → Except Failure User) (rows : Rows) (c : Crowd ι Rows Draft) :
    Prop where
  old : ∀ email user, rows.get? email = some user → c.kept.get? email = some user
  new : ∀ email, c.kept.contains email = true → rows.contains email = true ∨
    ∃ i user, users i = .ok user ∧ user.email = email ∧ c.progress i = .ended (.returned [user])
  accepted : ∀ i found, c.progress i = .ended (.returned found) →
    ∃ user, users i = .ok user ∧ found = [user] ∧ rows.contains user.email = false ∧
      c.kept.get? user.email = some user
  refused : ∀ i failure, c.progress i = .ended (.failed failure) →
    users i = .error failure ∨
      ∃ user, users i = .ok user ∧ failure = emailTaken user ∧ c.kept.contains user.email = true
  alone : ∀ i j user user', c.progress i = .ended (.returned [user]) →
    c.progress j = .ended (.returned [user']) → user.email = user'.email → i = j
  present : ∀ i, c.progress i ≠ .ended .dropped

variable {users : ι → Except Failure User} {rows : Rows} {c c' : Crowd ι Rows Draft}

theorem contest_initial (users : ι → Except Failure User) (progress : ι → Progress Draft)
    (hp : ∀ i, (progress i).isOver = false) (rows : Rows) :
    Contest users rows (initial progress rows) := by
  have hno : ∀ i result, progress i ≠ .ended result := by
    intro i result h
    have := hp i
    rw [h] at this
    cases this
  exact ⟨fun _ _ h => h, fun _ h => .inl h, fun i _ h => absurd h (hno i _),
    fun i _ h => absurd h (hno i _), fun i _ _ _ h => absurd h (hno i _), fun i => hno i _⟩

theorem comesTo_toAdd {user : User} {result : Ending (List User)} {before after : Rows}
    (h : (Plan.toAdd (.ok user)).ComesTo before result after) :
    before.contains user.email = false ∧ result = .returned [user] ∧ after = before.extend [user] ∨
      before.contains user.email = true ∧ result = .failed (emailTaken user) ∧ after = before := by
  rcases h with ⟨hroom, rfl, rfl⟩ | ⟨hroom, ⟨user', hu, rfl⟩, rfl⟩
  · exact .inl ⟨Rows.hasRoomFor_singleton.mp hroom, rfl, rfl⟩
  · rw [Task.users, Rows.hasRoomFor_singleton, Bool.not_eq_false] at hroom
    rw [List.mem_singleton.mp hu]
    exact .inr ⟨hroom, rfl, rfl⟩

theorem ne_of_over {i j : ι} {result : Ending (List User)} (hi : (c.progress i).isOver = false)
    (hj : c.progress j = .ended result) : j ≠ i := by
  rintro rfl
  rw [hj] at hi
  cases hi

theorem Contest.still_contains (h : Contest users rows c) {email : String}
    (hrow : rows.contains email = true) : c.kept.contains email = true := by
  obtain ⟨user, hget⟩ := Rows.exists_get?_of_contains hrow
  exact Rows.contains_of_get? (h.old email user hget)

/-! ### The end of a contest -/

/-- How it ends for someone: there was no user to be added; the user is in the rows, under an
address that was free; or the address is taken. -/
theorem Contest.ended (h : Contest users rows c) {i : ι} (ho : (c.progress i).isOver = true) :
    (∃ failure, users i = .error failure ∧ c.progress i = .ended (.failed failure)) ∨
      ∃ user, users i = .ok user ∧
        (c.progress i = .ended (.returned [user]) ∧ rows.contains user.email = false ∧
            c.kept.get? user.email = some user ∨
          c.progress i = .ended (.failed (emailTaken user)) ∧
            c.kept.contains user.email = true) := by
  cases hp : c.progress i with
  | ended result =>
    cases result with
    | returned found =>
      obtain ⟨user, hu, rfl, hfree, hget⟩ := h.accepted i found hp
      exact .inr ⟨user, hu, .inl ⟨rfl, hfree, hget⟩⟩
    | failed failure =>
      rcases h.refused i failure hp with hu | ⟨user, hu, rfl, htaken⟩
      · exact .inl ⟨failure, hu, rfl⟩
      · exact .inr ⟨user, hu, .inr ⟨rfl, htaken⟩⟩
    | dropped => exact absurd hp (h.present i)
  | _ => simp [hp, Progress.isOver] at ho

theorem Contest.over_of_unprepared (h : Contest users rows c) {i : ι} {failure : Failure}
    (ho : (c.progress i).isOver = true) (hu : users i = .error failure) :
    c.progress i = .ended (.failed failure) := by
  rcases h.ended ho with ⟨failure', hu', hp⟩ | ⟨user, hu', -⟩
  · obtain rfl : failure = failure' := Except.error.inj (hu.symm.trans hu')
    exact hp
  · rw [hu] at hu'
    cases hu'

theorem Contest.over_of_prepared (h : Contest users rows c) {i : ι} {user : User}
    (ho : (c.progress i).isOver = true) (hu : users i = .ok user) :
    c.progress i = .ended (.returned [user]) ∧ rows.contains user.email = false ∧
        c.kept.get? user.email = some user ∨
      c.progress i = .ended (.failed (emailTaken user)) ∧ c.kept.contains user.email = true := by
  rcases h.ended ho with ⟨failure, hu', -⟩ | ⟨user', hu', hp⟩
  · rw [hu] at hu'
    cases hu'
  · obtain rfl : user = user' := Except.ok.inj (hu.symm.trans hu')
    exact hp

theorem Contest.refused_of_taken (h : Contest users rows c) {i : ι} {user : User}
    (ho : (c.progress i).isOver = true) (hu : users i = .ok user)
    (htaken : rows.contains user.email = true) :
    c.progress i = .ended (.failed (emailTaken user)) := by
  rcases h.over_of_prepared ho hu with ⟨-, hfree, -⟩ | ⟨hp, -⟩
  · rw [htaken] at hfree
    cases hfree
  · exact hp

theorem Contest.refused_of_accepted (h : Contest users rows c) {i j : ι} {user winner : User}
    (hi : c.progress i = .ended (.returned [winner])) (hj : j ≠ i)
    (ho : (c.progress j).isOver = true) (hu : users j = .ok user)
    (he : user.email = winner.email) : c.progress j = .ended (.failed (emailTaken user)) := by
  rcases h.over_of_prepared ho hu with ⟨hp, -, -⟩ | ⟨hp, -⟩
  · exact absurd (h.alone j i user winner hp hi he) hj
  · exact hp

theorem Contest.exists_accepted (h : Contest users rows c) {i : ι} {user : User}
    (ho : (c.progress i).isOver = true) (hu : users i = .ok user)
    (hfree : rows.contains user.email = false) :
    ∃ j winner, users j = .ok winner ∧ winner.email = user.email ∧
      c.progress j = .ended (.returned [winner]) ∧ c.kept.get? user.email = some winner := by
  rcases h.over_of_prepared ho hu with ⟨hp, -, hget⟩ | ⟨-, htaken⟩
  · exact ⟨i, user, hu, rfl, hp, hget⟩
  · -- The one who has taken it since is the winner.
    rcases h.new user.email htaken with hrow | ⟨j, winner, hj, he, hp⟩
    · rw [hfree] at hrow
      cases hrow
    · obtain ⟨winner', -, hfound, -, hget⟩ := h.accepted j [winner] hp
      obtain rfl : winner = winner' := by simpa using hfound
      exact ⟨j, winner, hj, he, hp, he ▸ hget⟩

theorem Contest.contains_iff (h : Contest users rows c)
    (ho : ∀ i, (c.progress i).isOver = true) (email : String) :
    c.kept.contains email = true ↔
      rows.contains email = true ∨ ∃ i user, users i = .ok user ∧ user.email = email := by
  constructor
  · intro hc
    rcases h.new email hc with hrow | ⟨i, user, hu, he, -⟩
    · exact .inl hrow
    · exact .inr ⟨i, user, hu, he⟩
  · rintro (hrow | ⟨i, user, hu, rfl⟩)
    · exact h.still_contains hrow
    · rcases h.over_of_prepared (ho i) hu with ⟨-, -, hget⟩ | ⟨-, htaken⟩
      · exact Rows.contains_of_get? hget
      · exact htaken

/-! ### The steps of a contest -/

variable [DecidableEq ι]

/-- Somebody comes further, but not to the end. -/
theorem Contest.onward (h : Contest users rows c) {i : ι} {next : Progress Draft}
    (hi : (c.progress i).isOver = false) (ho : next.isOver = false) :
    Contest users rows (c.set i next c.kept) := by
  have hsame : ∀ j result,
      (c.set i next c.kept).progress j = .ended result ↔ c.progress j = .ended result := by
    intro j result
    rw [set_eq_ended_iff]
    constructor
    · rintro (⟨-, rfl⟩ | ⟨-, hj⟩)
      · cases ho
      · exact hj
    · exact fun hj => .inr ⟨ne_of_over hi hj, hj⟩
  constructor
  · exact h.old
  · simpa only [set_kept, hsame] using h.new
  · simpa only [set_kept, hsame] using h.accepted
  · simpa only [set_kept, hsame] using h.refused
  · simpa only [hsame] using h.alone
  · simpa only [ne_eq, hsame] using h.present

/-- Somebody is refused, and the rows stay. -/
theorem Contest.refuse (h : Contest users rows c) {i : ι} {failure : Failure}
    (hi : (c.progress i).isOver = false)
    (hf : users i = .error failure ∨ ∃ user, users i = .ok user ∧ failure = emailTaken user ∧
      c.kept.contains user.email = true) :
    Contest users rows (c.finish i (.failed failure) c.kept) := by
  have hreturned : ∀ j found,
      (c.finish i (.failed failure) c.kept).progress j = .ended (.returned found) ↔
        c.progress j = .ended (.returned found) := by
    intro j found
    rw [finish_eq_ended_iff]
    constructor
    · rintro (⟨-, hj⟩ | ⟨-, hj⟩)
      · cases hj
      · exact hj
    · exact fun hj => .inr ⟨ne_of_over hi hj, hj⟩
  constructor
  · exact h.old
  · simpa only [finish_kept, hreturned] using h.new
  · simpa only [finish_kept, hreturned] using h.accepted
  · intro j other hj
    rcases finish_eq_ended_iff.mp hj with ⟨rfl, he⟩ | ⟨-, hj⟩
    · cases he
      exact hf
    · exact h.refused j other hj
  · simpa only [hreturned] using h.alone
  · intro j hj
    rcases finish_eq_ended_iff.mp hj with ⟨-, he⟩ | ⟨-, hj⟩
    · cases he
    · exact h.present j hj

/-- Somebody is accepted under an address that is free, and the user is added. -/
theorem Contest.accept (h : Contest users rows c) {i : ι} {user : User}
    (hi : (c.progress i).isOver = false) (hu : users i = .ok user)
    (hfree : c.kept.contains user.email = false) :
    Contest users rows (c.finish i (.returned [user]) (c.kept.extend [user])) := by
  have hroom := Rows.hasRoomFor_singleton.mpr hfree
  have hold : ∀ {email u}, c.kept.get? email = some u →
      (c.kept.extend [user]).get? email = some u := fun hget => Rows.get?_extend_of_some hget _
  -- Whoever has been accepted before is in the rows, where this address is not.
  have hother : ∀ j u, c.progress j = .ended (.returned [u]) → u.email ≠ user.email := by
    intro j u hj he
    obtain ⟨u', -, hfound, -, hget⟩ := h.accepted j [u] hj
    obtain rfl : u = u' := by simpa using hfound
    rw [← he, Rows.contains_of_get? hget] at hfree
    cases hfree
  constructor
  · exact fun email u hget => hold (h.old email u hget)
  · intro email hemail
    rw [finish_kept, Rows.contains_extend, Bool.or_eq_true] at hemail
    rcases hemail with hemail | hemail
    · rcases h.new email hemail with hrow | ⟨j, u, huj, he, hj⟩
      · exact .inl hrow
      · exact .inr ⟨j, u, huj, he, finish_eq_ended_iff.mpr (.inr ⟨ne_of_over hi hj, hj⟩)⟩
    · exact .inr ⟨i, user, hu, by simpa using hemail, finish_eq_ended_iff.mpr (.inl ⟨rfl, rfl⟩)⟩
  · intro j found hj
    rcases finish_eq_ended_iff.mp hj with ⟨rfl, he⟩ | ⟨-, hj⟩
    · cases he
      refine ⟨user, hu, rfl, ?_, Rows.get?_extend_of_mem hroom (List.mem_singleton_self user)⟩
      by_contra htaken
      rw [h.still_contains (Bool.not_eq_false _ ▸ htaken)] at hfree
      cases hfree
    · obtain ⟨u, huj, hfound, hrow, hget⟩ := h.accepted j found hj
      exact ⟨u, huj, hfound, hrow, hold hget⟩
  · intro j failure hj
    rcases finish_eq_ended_iff.mp hj with ⟨-, he⟩ | ⟨-, hj⟩
    · cases he
    · rcases h.refused j failure hj with hf | ⟨u, huj, hf, htaken⟩
      · exact .inl hf
      · refine .inr ⟨u, huj, hf, ?_⟩
        rw [finish_kept, Rows.contains_extend, htaken, Bool.true_or]
  · intro j k u u' hj hk he
    rcases finish_eq_ended_iff.mp hj with ⟨rfl, hj'⟩ | ⟨-, hj'⟩ <;>
      rcases finish_eq_ended_iff.mp hk with ⟨rfl, hk'⟩ | ⟨-, hk'⟩
    · rfl
    · cases hj'
      exact absurd he.symm (hother k u' hk')
    · cases hk'
      exact absurd he (hother j u hj')
    · exact h.alone j k u u' hj' hk' he
  · intro j hj
    rcases finish_eq_ended_iff.mp hj with ⟨-, he⟩ | ⟨-, hj⟩
    · cases he
    · exact h.present j hj

theorem Contest.step (h : Contest users rows c) {i : ι}
    (hs : Step (fun i => .toAdd (users i)) c (i, .advance) c') : Contest users rows c' := by
  cases hs with
  | idle hi => exact h
  | onward hi ho hl => exact h.onward hi ho
  | @finish _ result after hi hc =>
    cases hu : users i with
    | error failure =>
      rw [hu] at hc
      obtain ⟨rfl, rfl⟩ := hc
      exact h.refuse hi (.inl hu)
    | ok user =>
      rw [hu] at hc
      rcases comesTo_toAdd hc with ⟨hfree, rfl, rfl⟩ | ⟨htaken, rfl, rfl⟩
      · exact h.accept hi hu hfree
      · exact h.refuse hi (.inr ⟨user, hu, rfl, htaken⟩)
  | leave hi hm => exact absurd rfl hm

/-! ### Signing up at the same time -/

theorem contest_advanceAll (hasher : Hasher) (attempts : ι → Attempt) (rows : Rows)
    (order : List ι) :
    Contest (fun i => (attempts i).prepared hasher) rows
      ((ofAttempts hasher attempts rows).advanceAll .memory order) := by
  have hl : (ofAttempts hasher attempts rows).LedBy fun i =>
      .toAdd ((attempts i).prepared hasher) := fun _ => rfl
  refine run_induction _ hl (contest_initial _ _ (fun _ => rfl) rows) fun c move c' hm _ h hs => ?_
  obtain ⟨i, -, rfl⟩ := List.mem_map.mp hm
  exact h.step hs

/-- Four steps are enough to come to the end. -/
theorem isOver_advanceAll (hasher : Hasher) (attempts : ι → Attempt) (rows : Rows)
    {order : List ι} {i : ι} (h : 4 ≤ order.count i) :
    (((ofAttempts hasher attempts rows).advanceAll .memory order).progress i).isOver = true := by
  refine isOver_run .memory i _ ?_
  have hcount : (order.map fun j => (j, Move.advance)).count (i, .advance) = order.count i :=
    List.count_map_of_injective order _ (fun _ _ he => (Prod.mk.inj he).1) i
  rw [hcount]
  show Progress.stepsLeft (.preparing (.toAdd ((attempts i).prepared hasher))) ≤ order.count i
  cases (attempts i).prepared hasher with
  | error failure =>
    show 1 ≤ order.count i
    omega
  | ok user => exact h

/-- **Exactly one is accepted.** Several sign up at the same time, in any order of their steps.
Whoever violates a rule is told so. Whoever wants an address that was taken is refused. Under each
address that was free and is wanted exactly one is accepted, whose user is in the rows; all others
who want it are refused. So the addresses that are taken in the end do not depend on the order. -/
theorem exactly_one_accepted (hasher : Hasher)
    (hh : ∀ salt password, ∃ hash, hasher.hash salt password = .ok hash)
    (attempts : ι → Attempt) (rows : Rows) (order : List ι)
    (ho : ∀ i, (((ofAttempts hasher attempts rows).advanceAll .memory order).progress i).isOver =
      true) :
    let c := (ofAttempts hasher attempts rows).advanceAll .memory order
    (∀ i violation, (attempts i).input.violation? = some violation →
      (c.progress i).answer? = some (.error (.ofViolation violation))) ∧
    (∀ i email, (attempts i).Wants email → rows.contains email = true →
      (c.progress i).answer? = some (.error (.internal (.emailTaken email)))) ∧
    (∀ email, rows.contains email = false → (∃ i, (attempts i).Wants email) →
      ∃ i password hash, (attempts i).Wants email ∧ password.text = (attempts i).input.password ∧
        hasher.hash (attempts i).random.salt password = .ok hash ∧
        let user := (attempts i).input.user (attempts i).random hash (attempts i).now
        (c.progress i).answer? = some (.ok (.ofUser user)) ∧ c.kept.find email = .ok user ∧
        ∀ j, j ≠ i → (attempts j).Wants email →
          (c.progress j).answer? = some (.error (.internal (.emailTaken email)))) ∧
    (∀ email, c.kept.contains email = true ↔
      rows.contains email = true ∨ ∃ i, (attempts i).Wants email) ∧
    ∀ email user, rows.find email = .ok user → c.kept.find email = .ok user := by
  intro c
  have h : Contest (fun i => (attempts i).prepared hasher) rows c :=
    contest_advanceAll hasher attempts rows order
  refine ⟨?_, ?_, ?_, ?_, ?_⟩
  · intro i violation hv
    rw [h.over_of_unprepared (ho i) (prepare_of_violation hv)]
    rfl
  · intro i email hw htaken
    obtain ⟨user, hu, rfl⟩ := Attempt.exists_prepared hh hw
    rw [h.refused_of_taken (ho i) hu htaken]
    rfl
  · rintro email hfree ⟨i, hw⟩
    obtain ⟨user, hu, rfl⟩ := Attempt.exists_prepared hh hw
    obtain ⟨w, winner, hwu, he, hp, hget⟩ := h.exists_accepted (ho i) hu hfree
    obtain ⟨-, password, hash, hpassword, hhash, rfl⟩ := prepare_eq_ok_iff.mp hwu
    refine ⟨w, password, hash, he ▸ Attempt.wants_of_prepared hwu, hpassword, hhash, ?_,
      Rows.find_eq_ok_iff.mpr hget, ?_⟩
    · rw [hp]
      rfl
    · intro j hj hwj
      obtain ⟨other, hou, hoe⟩ := Attempt.exists_prepared hh hwj
      rw [h.refused_of_accepted hp hj (ho j) hou (hoe.trans he.symm), ← hoe]
      rfl
  · intro email
    rw [h.contains_iff ho]
    refine or_congr_right (exists_congr fun i => ⟨?_, Attempt.exists_prepared hh⟩)
    rintro ⟨user, hu, rfl⟩
    exact Attempt.wants_of_prepared hu
  · intro email user hfind
    exact Rows.find_eq_ok_iff.mpr (h.old email user (Rows.find_eq_ok_iff.mp hfind))

/-- Two who sign up with one address, step by step in turn: one is accepted, and one refused. -/
theorem one_of_two_accepted :
    let now : Time.Instant := ⟨0, 0, by decide, by decide, by decide⟩
    let attempt : Attempt :=
      ⟨⟨"ada@example.com", "12345678", "Ada"⟩, ⟨.replicate 16 0, .replicate 16 0⟩, now⟩
    let order := [false, true, false, true, false, true, false, true]
    let c := (ofAttempts .plain (fun _ => attempt) .empty).advanceAll .memory order
    ∃ i user, (c.progress i).answer? = some (.ok (.ofUser user)) ∧
      c.kept.find "ada@example.com" = .ok user ∧
      (c.progress !i).answer? = some (.error (.internal (.emailTaken "ada@example.com"))) := by
  intro now attempt order
  have hw : attempt.Wants "ada@example.com" := ⟨by decide, rfl⟩
  obtain ⟨-, -, hwinner, -⟩ := exactly_one_accepted .plain (fun _ _ => ⟨_, rfl⟩)
    (fun _ => attempt) .empty order
    fun i => isOver_advanceAll .plain _ .empty (by cases i <;> decide)
  obtain ⟨i, -, hash, -, -, -, hi, hkept, hothers⟩ :=
    hwinner "ada@example.com" (Rows.contains_empty _) ⟨false, hw⟩
  have hne : (!i) ≠ i := by cases i <;> decide
  exact ⟨i, _, hi, hkept, hothers (!i) hne hw⟩

end Crowd

end UserAccounts
