/-
# A crowd of callers

Each of several callers has a task: to create a user outside transactions, or to
create users one after another in a transaction of its own, which ends with the
first that cannot be created. They take turns in any order (`Crowd.run`). A step
of a caller creates one user, or commits; before that there may be a step in
which the task is worked out, which can fail, and one that starts the transaction.
Between any two steps a caller may give up: it aborts, or is dropped.

A caller that comes to an end of its own has done at that moment what its task
comes to alone (`Plan.ComesTo`): all its users are created if there is room for
them, and none if not. All other steps leave the rows alone (`step_move`).

Key definitions: `Task`, `Plan`, `Progress.advance`, `Crowd`, `Crowd.move`,
`Crowd.run`, `Plan.ComesTo`.
Key theorems: `advances_advance`, `Crowd.step_move`, `Crowd.run_induction`,
`Crowd.isOver_run`.
-/
import Mathlib.Logic.Function.Basic
import UserAccounts.Proofs.Store.Rows

namespace UserAccounts

/-- What someone does with what is kept. -/
inductive Task where
  /-- Creates a user outside transactions. -/
  | create (user : User)
  /-- Creates users one after another in a transaction, up to the first that cannot be created. -/
  | transaction (users : List User)

def Task.users : Task → List User
  | .create user => [user]
  | .transaction users => users

def Task.steps : Task → Nat
  | .create _ => 1
  | .transaction users => users.length + 2

/-- A task, or why there is none. -/
abbrev Plan := Except Failure Task

/-- How far someone has come. -/
inductive Progress (δ : Type) where
  /-- The task is being worked out, away from what is kept. -/
  | preparing (plan : Plan)
  | ready (task : Task)
  /-- A transaction is under way, with users created and users left to create. -/
  | creating (done left : List User) (draft : δ)
  | ended (result : Ending (List User))

/-- What happens to someone. -/
inductive Move where
  | advance
  | abort (failure : Failure)
  | drop
deriving DecidableEq

namespace Progress

variable {σ δ : Type}

def isOver : Progress δ → Bool
  | .ended _ => true
  | _ => false

/-- What it has come to in the end. -/
def result? : Progress δ → Option (Ending (List User))
  | .ended result => some result
  | _ => none

def advance (p : Persistence σ δ) : Progress δ → σ → Progress δ × σ
  | .preparing (.error failure), s => (.ended (.failed failure), s)
  | .preparing (.ok task), s => (.ready task, s)
  | .ready (.create user), s =>
    match p.create user s with
    | (.ok user, s) => (.ended (.returned [user]), s)
    | (.error failure, s) => (.ended (.failed failure), s)
  | .ready (.transaction users), s =>
    match p.start s with
    | (.ok draft, s) => (.creating [] users draft, s)
    | (.error failure, s) => (.ended (.failed failure), s)
  | .creating done (user :: left) draft, s =>
    match p.createIn user draft s with
    | (.ok user, draft, s) => (.creating (done ++ [user]) left draft, s)
    | (.error failure, draft, s) =>
      let (result, s) := p.close (.failed failure) draft s
      (.ended result, s)
  | .creating done [] draft, s =>
    let (result, s) := p.close (.returned done) draft s
    (.ended result, s)
  | .ended result, s => (.ended result, s)

/-- Ends before its time, aborted or dropped. -/
def leave (p : Persistence σ δ) (ending : Ending (List User)) :
    Progress δ → σ → Progress δ × σ
  | .creating _ _ draft, s =>
    let (result, s) := p.close ending draft s
    (.ended result, s)
  | .ended result, s => (.ended result, s)
  | _, s => (.ended ending, s)

def stepsLeft : Progress δ → Nat
  | .preparing (.error _) => 1
  | .preparing (.ok task) => task.steps + 1
  | .ready task => task.steps
  | .creating _ left _ => left.length + 1
  | .ended _ => 0

end Progress

/-- Several at once: what is kept, how far each has come, and who has come to an end of their own,
in this order. -/
structure Crowd (ι σ δ : Type) where
  kept : σ
  progress : ι → Progress δ
  finished : List ι

namespace Crowd

variable {ι σ δ : Type} [DecidableEq ι]

/-- The crowd in which `i` has come further. -/
def set (c : Crowd ι σ δ) (i : ι) (progress : Progress δ) (kept : σ) : Crowd ι σ δ :=
  { c with kept, progress := Function.update c.progress i progress }

/-- Notes that `i` has finished. -/
def note (c : Crowd ι σ δ) (i : ι) : Crowd ι σ δ :=
  { c with finished := c.finished ++ [i] }

def finish (c : Crowd ι σ δ) (i : ι) (result : Ending (List User)) (kept : σ) : Crowd ι σ δ :=
  (c.set i (.ended result) kept).note i

/-- Something happens to one of them. -/
def move (p : Persistence σ δ) (c : Crowd ι σ δ) : ι × Move → Crowd ι σ δ
  | (i, .advance) =>
    let (progress, kept) := (c.progress i).advance p c.kept
    if progress.isOver && !(c.progress i).isOver then (c.set i progress kept).note i
    else c.set i progress kept
  | (i, .abort failure) =>
    let (progress, kept) := (c.progress i).leave p (.failed failure) c.kept
    c.set i progress kept
  | (i, .drop) =>
    let (progress, kept) := (c.progress i).leave p .dropped c.kept
    c.set i progress kept

/-- Things happen one after another. -/
def run (p : Persistence σ δ) (c : Crowd ι σ δ) (moves : List (ι × Move)) : Crowd ι σ δ :=
  moves.foldl (move p) c

end Crowd

/-! ### One caller -/

/-- What a plan comes to when it is carried out at once: all its users are created, if there is
room for them, and none otherwise. -/
def Plan.ComesTo : Plan → Rows → Ending (List User) → Rows → Prop
  | .error failure, rows, result, after => result = .failed failure ∧ after = rows
  | .ok task, rows, result, after =>
    rows.HasRoomFor task.users ∧ result = .returned task.users ∧ after = rows.extend task.users ∨
    ¬ rows.HasRoomFor task.users ∧
      (∃ user ∈ task.users, result = .failed (emailTaken user)) ∧ after = rows

/-- Carrying out the plan leads to this progress. -/
def Plan.LeadsTo (plan : Plan) : Progress Draft → Prop
  | .preparing plan' => plan' = plan
  | .ready task => plan = .ok task
  | .creating done left draft =>
    plan = .ok (.transaction (done ++ left)) ∧ draft.users = done ∧ draft.Distinct
  | .ended _ => True

/-- What a step can do to someone with a plan, and to the rows. -/
inductive Advances (plan : Plan) (rows : Rows) : Progress Draft → Rows → Prop where
  | onward {next : Progress Draft} (ho : next.isOver = false) (hl : plan.LeadsTo next) :
      Advances plan rows next rows
  | ends {result : Ending (List User)} {after : Rows} (hc : plan.ComesTo rows result after) :
      Advances plan rows (.ended result) after

namespace Draft

variable {draft : Draft} {rows : Rows} {user : User} {failure : Failure}

/-- If a user cannot be created, there is no room for the draft's users and this one. -/
theorem no_room_of_create_eq_error (h : draft.create rows user = .error failure)
    (left : List User) : ¬ rows.HasRoomFor (draft.users ++ user :: left) := by
  intro hroom
  rcases (create_eq_error h).1 with htaken | htaken
  · have hdistinct := hroom.distinct
    rw [List.map_append, List.map_cons, List.nodup_append] at hdistinct
    obtain ⟨u, hu, he⟩ := List.any_eq_true.mp htaken
    exact hdistinct.2.2 u.email (List.mem_map_of_mem hu) user.email List.mem_cons_self
      (by simpa using he)
  · rw [hroom.free user (by simp)] at htaken
    cases htaken

theorem no_room_of_commit_eq_error (h : draft.commit rows = .error failure) :
    ¬ rows.HasRoomFor draft.users := by
  intro hroom
  rw [commit_of_room hroom] at h
  cases h

end Draft

theorem comesTo_create (user : User) (rows : Rows) :
    Advances (.ok (.create user)) rows
      ((Progress.ready (.create user)).advance .memory rows).1
      ((Progress.ready (.create user)).advance .memory rows).2 := by
  unfold Progress.advance
  cases hfree : rows.contains user.email with
  | false =>
    simp only [Persistence.memory_create_of_free hfree]
    exact .ends (.inl ⟨Rows.hasRoomFor_singleton.mpr hfree, rfl, rfl⟩)
  | true =>
    simp only [Persistence.memory_create_of_taken hfree]
    refine .ends (.inr ⟨fun hroom => ?_, ⟨user, List.mem_singleton_self _, rfl⟩, rfl⟩)
    rw [Task.users, Rows.hasRoomFor_singleton, hfree] at hroom
    cases hroom

/-- A step does nothing else. -/
theorem advances_advance {plan : Plan} {progress : Progress Draft} (hl : plan.LeadsTo progress)
    (ho : progress.isOver = false) (rows : Rows) :
    Advances plan rows (progress.advance .memory rows).1 (progress.advance .memory rows).2 := by
  cases progress with
  | preparing outcome =>
    obtain rfl : outcome = plan := hl
    cases outcome with
    | error failure => exact .ends ⟨rfl, rfl⟩
    | ok task => exact .onward rfl rfl
  | ready task =>
    obtain rfl : plan = .ok task := hl
    cases task with
    | create user => exact comesTo_create user rows
    | transaction users => exact .onward rfl ⟨rfl, rfl, Draft.distinct_empty⟩
  | creating done left draft =>
    obtain ⟨rfl, hdone, hdistinct⟩ := hl
    subst hdone
    unfold Progress.advance
    cases left with
    | nil =>
      cases hc : draft.commit rows with
      | ok kept =>
        obtain ⟨hroom, rfl⟩ := (Draft.commit_eq_ok_iff hdistinct).mp hc
        simp only [Persistence.close, Persistence.memory_commit_of_ok hc]
        refine .ends (.inl ?_)
        simpa [Task.users] using hroom
      | error failure =>
        obtain ⟨user, hu, -, rfl⟩ := Draft.commit_eq_error hc
        simp only [Persistence.close, Persistence.memory_commit_of_error hc]
        refine .ends (.inr ⟨?_, ⟨user, by simpa [Task.users] using hu, rfl⟩, rfl⟩)
        simpa [Task.users] using Draft.no_room_of_commit_eq_error hc
    | cons user left =>
      cases hc : draft.create rows user with
      | ok more =>
        simp only [Persistence.memory_createIn_of_ok hc]
        refine .onward rfl ⟨by simp, ?_, hdistinct.create hc⟩
        exact congrArg Draft.users (Draft.create_eq_ok_iff.mp hc).2
      | error failure =>
        obtain ⟨-, rfl⟩ := Draft.create_eq_error hc
        simp only [Persistence.close, Persistence.memory_createIn_of_error hc]
        exact .ends (.inr ⟨Draft.no_room_of_create_eq_error hc left,
          ⟨user, by simp [Task.users], rfl⟩, rfl⟩)
  | ended result => cases ho

/-- Whoever leaves is at an end, and leaves the rows alone. -/
theorem leave_memory (ending : Ending (List User)) (he : ∀ users, ending ≠ .returned users)
    {progress : Progress Draft} (ho : progress.isOver = false) (rows : Rows) :
    progress.leave .memory ending rows = (.ended ending, rows) := by
  cases progress with
  | preparing plan => rfl
  | ready task => rfl
  | creating done left draft =>
    cases ending with
    | returned users => exact absurd rfl (he users)
    | failed failure => rfl
    | dropped => rfl
  | ended result => cases ho

namespace Crowd

variable {ι : Type} [DecidableEq ι] {plans : ι → Plan} {c c' : Crowd ι Rows Draft}

/-! ### The crowd -/

def initial {σ δ : Type} (progress : ι → Progress δ) (kept : σ) : Crowd ι σ δ :=
  ⟨kept, progress, []⟩

@[simp] theorem set_progress_self {σ δ : Type} (c : Crowd ι σ δ) (i : ι) (progress : Progress δ)
    (kept : σ) : (c.set i progress kept).progress i = progress :=
  Function.update_self ..

@[simp] theorem set_kept {σ δ : Type} (c : Crowd ι σ δ) (i : ι) (progress : Progress δ)
    (kept : σ) : (c.set i progress kept).kept = kept :=
  rfl

@[simp] theorem finish_kept {σ δ : Type} (c : Crowd ι σ δ) (i : ι) (result : Ending (List User))
    (kept : σ) : (c.finish i result kept).kept = kept :=
  rfl

theorem set_progress_of_ne {σ δ : Type} {i j : ι} (h : j ≠ i) (c : Crowd ι σ δ)
    (progress : Progress δ) (kept : σ) : (c.set i progress kept).progress j = c.progress j :=
  Function.update_of_ne h ..

theorem set_eq_ended_iff {σ δ : Type} {c : Crowd ι σ δ} {i j : ι} {next : Progress δ} {kept : σ}
    {result : Ending (List User)} :
    (c.set i next kept).progress j = .ended result ↔
      j = i ∧ next = .ended result ∨ j ≠ i ∧ c.progress j = .ended result := by
  rcases eq_or_ne j i with rfl | hne
  · simp
  · simp [set_progress_of_ne hne, hne]

theorem finish_eq_ended_iff {σ δ : Type} {c : Crowd ι σ δ} {i j : ι} {kept : σ}
    {result result' : Ending (List User)} :
    (c.finish i result kept).progress j = .ended result' ↔
      j = i ∧ result = result' ∨ j ≠ i ∧ c.progress j = .ended result' := by
  have h : (c.finish i result kept).progress = (c.set i (.ended result) kept).progress := rfl
  rw [h, set_eq_ended_iff, Progress.ended.injEq]

theorem set_eq_self {σ δ : Type} (c : Crowd ι σ δ) (i : ι) :
    c.set i (c.progress i) c.kept = c := by
  unfold set
  rw [Function.update_eq_self]

theorem move_advance {σ δ : Type} (p : Persistence σ δ) (c : Crowd ι σ δ) (i : ι) :
    ((c.move p (i, .advance)).progress i, (c.move p (i, .advance)).kept) =
      (c.progress i).advance p c.kept := by
  simp only [move]
  generalize (c.progress i).advance p c.kept = stepped
  obtain ⟨next, after⟩ := stepped
  split <;> simp [note]

/-- Everyone is on the way that the plans lay out. -/
def LedBy (plans : ι → Plan) (c : Crowd ι Rows Draft) : Prop :=
  ∀ i, (plans i).LeadsTo (c.progress i)

/-- What a move can do to a crowd with plans. -/
inductive Step (plans : ι → Plan) (c : Crowd ι Rows Draft) :
    ι × Move → Crowd ι Rows Draft → Prop where
  | idle {i : ι} {move : Move} (hi : (c.progress i).isOver = true) : Step plans c (i, move) c
  | onward {i : ι} {next : Progress Draft} (hi : (c.progress i).isOver = false)
      (ho : next.isOver = false) (hl : (plans i).LeadsTo next) :
      Step plans c (i, .advance) (c.set i next c.kept)
  | finish {i : ι} {result : Ending (List User)} {after : Rows}
      (hi : (c.progress i).isOver = false) (hc : (plans i).ComesTo c.kept result after) :
      Step plans c (i, .advance) (c.finish i result after)
  | leave {i : ι} {move : Move} {ending : Ending (List User)}
      (hi : (c.progress i).isOver = false) (hm : move ≠ .advance) :
      Step plans c (i, move) (c.set i (.ended ending) c.kept)

theorem step_idle {i : ι} {move : Move} (hi : (c.progress i).isOver = true) :
    c.move .memory (i, move) = c := by
  cases hp : c.progress i with
  | ended result =>
    have hset : c.set i (.ended result) c.kept = c := hp ▸ c.set_eq_self i
    cases move <;> simp [Crowd.move, hp, Progress.advance, Progress.leave, Progress.isOver, hset]
  | _ => simp [hp, Progress.isOver] at hi

/-- A move does nothing else. -/
theorem step_move (hl : c.LedBy plans) : ∀ move, Step plans c move (c.move .memory move)
  | (i, move) => by
    cases hi : (c.progress i).isOver with
    | true =>
      rw [step_idle hi]
      exact .idle hi
    | false =>
      cases move with
      | advance =>
        have h := advances_advance (hl i) hi c.kept
        simp only [Crowd.move, hi, Bool.not_false, Bool.and_true]
        generalize (c.progress i).advance .memory c.kept = stepped at h ⊢
        obtain ⟨next, after⟩ := stepped
        cases h with
        | onward ho hl' =>
          simp only [ho, Bool.false_eq_true, if_false]
          exact .onward hi ho hl'
        | ends hc =>
          simp only [Progress.isOver, if_true]
          exact .finish hi hc
      | abort failure =>
        simp only [Crowd.move, leave_memory (.failed failure) (by simp) hi]
        exact .leave hi (by simp)
      | drop =>
        simp only [Crowd.move, leave_memory .dropped (by simp) hi]
        exact .leave hi (by simp)

theorem LedBy.set (hl : c.LedBy plans) {i : ι} {progress : Progress Draft}
    (h : (plans i).LeadsTo progress) (kept : Rows) : (c.set i progress kept).LedBy plans := by
  intro j
  rcases eq_or_ne j i with rfl | hne
  · rwa [set_progress_self]
  · rw [set_progress_of_ne hne]
    exact hl j

theorem LedBy.step (hl : c.LedBy plans) {move : ι × Move} (hs : Step plans c move c') :
    c'.LedBy plans := by
  have hover : ∀ i result, (plans i).LeadsTo (.ended result) := fun _ _ => trivial
  cases hs with
  | idle hi => exact hl
  | onward hi ho hl' => exact hl.set hl' _
  | @finish i result after hi hc => exact hl.set (hover i result) after
  | @leave i move ending hi hm => exact hl.set (hover i ending) c.kept

/-- What each step keeps, a run keeps. -/
theorem run_induction {motive : Crowd ι Rows Draft → Prop} : ∀ (moves : List (ι × Move))
    {c : Crowd ι Rows Draft}, c.LedBy plans → motive c →
    (∀ c move c', move ∈ moves → c.LedBy plans → motive c → Step plans c move c' → motive c') →
      motive (c.run .memory moves)
  | [], _, _, h, _ => h
  | move :: moves, c, hl, h, hstep => by
    have hs := step_move hl move
    exact run_induction moves (hl.step hs) (hstep c move _ List.mem_cons_self hl h hs)
      fun c move c' hm => hstep c move c' (List.mem_cons_of_mem _ hm)

/-! ### Coming to the end -/

theorem isOver_iff {δ : Type} {progress : Progress δ} :
    progress.isOver = true ↔ progress.stepsLeft = 0 := by
  cases progress with
  | preparing plan => cases plan <;> simp [Progress.isOver, Progress.stepsLeft]
  | ready task => cases task <;> simp [Progress.isOver, Progress.stepsLeft, Task.steps]
  | _ => simp [Progress.isOver, Progress.stepsLeft]

theorem stepsLeft_advance {σ δ : Type} (p : Persistence σ δ) (progress : Progress δ) (s : σ) :
    (progress.advance p s).1.stepsLeft ≤ progress.stepsLeft - 1 := by
  cases progress with
  | preparing plan => cases plan <;> simp [Progress.advance, Progress.stepsLeft]
  | ready task =>
    cases task <;> simp only [Progress.advance] <;> split <;>
      simp [Progress.stepsLeft, Task.steps]
  | creating done left draft =>
    cases left with
    | nil => simp [Progress.advance, Progress.stepsLeft]
    | cons user left =>
      simp only [Progress.advance]
      split <;> simp [Progress.stepsLeft]
  | ended result => simp [Progress.advance, Progress.stepsLeft]

theorem stepsLeft_leave {σ δ : Type} (p : Persistence σ δ) (ending : Ending (List User))
    (progress : Progress δ) (s : σ) : (progress.leave p ending s).1.stepsLeft = 0 := by
  cases progress <;> rfl

theorem stepsLeft_move {σ δ : Type} (p : Persistence σ δ) (c : Crowd ι σ δ) (i : ι) :
    ∀ move, ((c.move p move).progress i).stepsLeft ≤
      (c.progress i).stepsLeft - if move = (i, .advance) then 1 else 0
  | (j, move) => by
    rcases eq_or_ne i j with rfl | hne
    · cases move with
      | advance =>
        have h := stepsLeft_advance p (c.progress i) c.kept
        simp only [Crowd.move, if_true]
        generalize (c.progress i).advance p c.kept = stepped at h ⊢
        obtain ⟨next, after⟩ := stepped
        have hset : ((c.set i next after).progress i).stepsLeft ≤ (c.progress i).stepsLeft - 1 := by
          rw [set_progress_self]
          exact h
        split <;> exact hset
      | abort failure => simp [Crowd.move, stepsLeft_leave]
      | drop => simp [Crowd.move, stepsLeft_leave]
    · have hkeep : (c.move p (j, move)).progress i = c.progress i := by
        cases move with
        | advance =>
          simp only [Crowd.move]
          generalize (c.progress j).advance p c.kept = stepped
          obtain ⟨next, after⟩ := stepped
          have hset := set_progress_of_ne hne c next after
          split <;> exact hset
        | abort failure => exact set_progress_of_ne hne ..
        | drop => exact set_progress_of_ne hne ..
      have hmove : (j, move) ≠ (i, Move.advance) := fun he => hne (congrArg Prod.fst he).symm
      rw [hkeep, if_neg hmove]
      omega

/-- Whoever is advanced often enough comes to an end. -/
theorem isOver_run {σ δ : Type} (p : Persistence σ δ) (i : ι) : ∀ (moves : List (ι × Move))
    {c : Crowd ι σ δ}, (c.progress i).stepsLeft ≤ moves.count (i, .advance) →
      ((c.run p moves).progress i).isOver = true
  | [], c, h => isOver_iff.mpr (Nat.le_zero.mp h)
  | move :: moves, c, h => by
    refine isOver_run p i moves ?_
    have hstep := stepsLeft_move p c i move
    rw [List.count_cons] at h
    simp only [beq_iff_eq] at h
    omega

end Crowd

end UserAccounts
