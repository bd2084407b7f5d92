/-
# A crowd comes to the same as a session

However the steps of a crowd in memory are mixed, those who have come to an end of
their own have done what they would have done in a session, one after another in
the order in which they finished (`crowd_eq_session`): what each came to is the
same, but for the address that is named when one is taken, and so are the rows.
Those who aborted or were dropped do not occur in the session.

The invariant is `InTurn`: the session of those who have finished so far ends in
the rows that are kept now. A step that finishes someone adds one operation to the
session, and both come to what the plan comes to at these rows (`Plan.ComesTo`),
which is unique up to that address; all other steps leave rows and session alone.

Key definitions: `Step.outcome`, `Failure.withoutEmail`, `Crowd.InTurn`.
Key theorems: `Session.run_append`, `comesTo_operation`, `Crowd.InTurn.step`,
`crowd_eq_session`.
-/
import UserAccounts.Proofs.Store.Crowd
import UserAccounts.Store.Session

namespace UserAccounts

/-! ### Outcomes -/

/-- The failure, without the address that was taken. -/
def Failure.withoutEmail : Failure → Failure
  | .internal (.emailTaken _) => .internal (.emailTaken "")
  | failure => failure

/-- The ending, without the address that was taken. -/
def Ending.withoutEmail {α : Type} : Ending α → Ending α
  | .failed failure => .failed failure.withoutEmail
  | ending => ending

namespace Step

variable {σ : Type}

def user? : Step σ → Option User
  | .user (.ok u) _ _ => some u
  | _ => none

def outcome : Step σ → Ending (List User)
  | .user (.ok u) _ _ => .returned [u]
  | .user (.error failure) _ _ => .failed failure
  | .look _ _ => .returned []
  | .transaction steps (.returned ()) _ _ => .returned (steps.filterMap user?)
  | .transaction _ (.failed failure) _ _ => .failed failure
  | .transaction _ .dropped _ _ => .dropped

end Step

def Task.operation : Task → Operation
  | .create user => .create user
  | .transaction users => .transaction (users.map .create) .commit true

/-- What a plan comes to is settled, but for the address that was taken. -/
theorem Plan.ComesTo.unique {plan : Plan} {rows after after' : Rows}
    {result result' : Ending (List User)} (h : plan.ComesTo rows result after)
    (h' : plan.ComesTo rows result' after') :
    result.withoutEmail = result'.withoutEmail ∧ after = after' := by
  cases plan with
  | error failure =>
    obtain ⟨rfl, rfl⟩ := h
    obtain ⟨rfl, rfl⟩ := h'
    exact ⟨rfl, rfl⟩
  | ok task =>
    rcases h with ⟨hroom, rfl, rfl⟩ | ⟨hroom, ⟨user, -, rfl⟩, rfl⟩ <;>
      rcases h' with ⟨hroom', rfl, rfl⟩ | ⟨hroom', ⟨user', -, rfl⟩, rfl⟩
    · exact ⟨rfl, rfl⟩
    · exact absurd hroom hroom'
    · exact absurd hroom' hroom
    · exact ⟨rfl, rfl⟩

/-! ### Sessions -/

namespace Session

variable {σ δ : Type}

theorem run_cons (p : Persistence σ δ) (operation : Operation) (operations : List Operation)
    (s : σ) :
    run p (operation :: operations) s =
      ((runOne p (outside p) operation s () s).1 ::
          (run p operations (runOne p (outside p) operation s () s).2.2).1,
        (run p operations (runOne p (outside p) operation s () s).2.2).2) := by
  simp only [run, runAll]
  cases (runOne p (outside p) operation s () s).1.failure? <;> rfl

theorem run_append (p : Persistence σ δ) : ∀ (operations more : List Operation) (s : σ),
    run p (operations ++ more) s =
      ((run p operations s).1 ++ (run p more (run p operations s).2).1,
        (run p more (run p operations s).2).2)
  | [], _, _ => rfl
  | operation :: operations, more, s => by
    rw [List.cons_append, run_cons, run_append p operations, run_cons]
    rfl

@[simp] theorem inside_create (p : Persistence σ δ) : (inside p).create = p.createIn := rfl

theorem runAll_creates : ∀ (users : List User) {draft : Draft}, draft.Distinct →
    ∀ (before rows : Rows),
      let r := runAll .memory (inside .memory) (users.map .create) true before draft rows
      r.2.2.2.2 = rows ∧
        ((r.2.1 = none ∧ r.2.2.2.1 = ⟨draft.users ++ users⟩ ∧ r.2.2.2.1.Distinct ∧
            r.1.filterMap Step.user? = users) ∨
          ∃ user ∈ users, r.2.1 = some (emailTaken user) ∧
            ¬ rows.HasRoomFor (draft.users ++ users))
  | [], draft, hd, before, rows => by
    refine ⟨rfl, .inl ⟨rfl, ?_, hd, rfl⟩⟩
    simp [runAll]
  | user :: users, draft, hd, before, rows => by
    simp only [List.map_cons, runAll, runOne, inside_create]
    cases hc : draft.create rows user with
    | ok more =>
      obtain ⟨hrows, hrest⟩ := runAll_creates users (hd.create hc) rows rows
      obtain ⟨-, rfl⟩ := Draft.create_eq_ok_iff.mp hc
      simp only [Persistence.memory_createIn_of_ok hc, Step.failure?]
      refine ⟨hrows, ?_⟩
      rcases hrest with ⟨hnone, hdraft, hdistinct, husers⟩ | ⟨other, ho, hsome, hroom⟩
      · refine .inl ⟨hnone, ?_, hdistinct, ?_⟩
        · simpa using hdraft
        · rw [List.filterMap_cons_some (by rfl)]
          exact congrArg _ husers
      · exact .inr ⟨other, List.mem_cons_of_mem _ ho, hsome, by simpa using hroom⟩
    | error failure =>
      obtain ⟨-, rfl⟩ := Draft.create_eq_error hc
      simp only [Persistence.memory_createIn_of_error hc, Step.failure?]
      have hroom := Draft.no_room_of_create_eq_error hc users
      exact ⟨trivial, .inr ⟨user, List.mem_cons_self, rfl, hroom⟩⟩

end Session

/-- Carrying out a task in a session comes to what is planned. -/
theorem comesTo_operation (task : Task) (before rows : Rows) :
    let r := Session.runOne .memory (Session.outside .memory) task.operation before () rows
    Plan.ComesTo (.ok task) rows r.1.outcome r.2.2 := by
  cases task with
  | create user =>
    simp only [Task.operation, Session.runOne, Session.outside]
    cases hfree : rows.contains user.email with
    | false =>
      simp only [Persistence.memory_create_of_free hfree]
      exact .inl ⟨Rows.hasRoomFor_singleton.mpr hfree, rfl, rfl⟩
    | true =>
      simp only [Persistence.memory_create_of_taken hfree]
      refine .inr ⟨fun hroom => ?_, ⟨user, List.mem_singleton_self _, rfl⟩, rfl⟩
      rw [Task.users, Rows.hasRoomFor_singleton, hfree] at hroom
      cases hroom
  | transaction users =>
    obtain ⟨hrows, hrest⟩ := Session.runAll_creates users Draft.distinct_empty before rows
    simp only [Task.operation, Session.runOne, Persistence.memory_start]
    generalize Session.runAll .memory (Session.inside .memory) (users.map .create) true before
      .empty rows = r at hrows hrest
    obtain ⟨steps, failure?, left, draft, after⟩ := r
    simp only at hrows hrest ⊢
    subst hrows
    rcases hrest with ⟨rfl, rfl, hd, husers⟩ | ⟨user, hu, rfl, hroom⟩
    · simp only [Option.elim_none, Session.ending, Persistence.close]
      cases hc : Draft.commit ⟨Draft.empty.users ++ users⟩ after with
      | ok kept =>
        obtain ⟨hroom, rfl⟩ := (Draft.commit_eq_ok_iff hd).mp hc
        simp only [Persistence.memory_commit_of_ok hc]
        exact .inl ⟨hroom, congrArg Ending.returned husers, rfl⟩
      | error failure =>
        obtain ⟨user, hu, -, rfl⟩ := Draft.commit_eq_error hc
        simp only [Persistence.memory_commit_of_error hc]
        exact .inr ⟨Draft.no_room_of_commit_eq_error hc, ⟨user, hu, rfl⟩, rfl⟩
    · simp only [Option.elim_some, Persistence.close]
      exact .inr ⟨hroom, ⟨user, hu, rfl⟩, rfl⟩

namespace Crowd

variable {ι : Type} [DecidableEq ι] {tasks : ι → Task} {rows : Rows} {c c' : Crowd ι Rows Draft}

/-! ### The crowd and the session -/

/-- The session of some of the tasks, one after another. -/
def inTurn (tasks : ι → Task) (order : List ι) (rows : Rows) :
    List (UserAccounts.Step Rows) × Rows :=
  Session.run .memory (order.map fun i => (tasks i).operation) rows

/-- What those who have finished came to, in the order in which they finished. -/
def results {σ δ : Type} (c : Crowd ι σ δ) : List (Option (Ending (List User))) :=
  c.finished.map fun i => (c.progress i).result?.map Ending.withoutEmail

/-- Those who have finished came to what they come to in a session, in the same order. -/
structure InTurn (tasks : ι → Task) (rows : Rows) (c : Crowd ι Rows Draft) : Prop where
  nodup : c.finished.Nodup
  ended : ∀ i ∈ c.finished, (c.progress i).isOver = true
  kept : (inTurn tasks c.finished rows).2 = c.kept
  results : (inTurn tasks c.finished rows).1.map (fun step => some step.outcome.withoutEmail) =
    c.results

/-- Somebody who has not finished comes further. -/
theorem InTurn.set (h : InTurn tasks rows c) {i : ι} (hi : (c.progress i).isOver = false)
    (next : Progress Draft) : InTurn tasks rows (c.set i next c.kept) := by
  have hne : ∀ j ∈ c.finished, j ≠ i := by
    rintro j hj rfl
    rw [h.ended j hj] at hi
    cases hi
  have hsame : ∀ j ∈ c.finished, (c.set i next c.kept).progress j = c.progress j :=
    fun j hj => set_progress_of_ne (hne j hj) ..
  refine ⟨h.nodup, fun j hj => ?_, h.kept, h.results.trans ?_⟩
  · rw [hsame j hj]
    exact h.ended j hj
  · exact List.map_congr_left fun j hj => by rw [hsame j hj]

/-- Somebody finishes, and has done what comes next in the session. -/
theorem InTurn.finish (h : InTurn tasks rows c) {i : ι} (hi : (c.progress i).isOver = false)
    {result : Ending (List User)} {after : Rows}
    (hc : Plan.ComesTo (.ok (tasks i)) c.kept result after) :
    InTurn tasks rows (c.finish i result after) := by
  have h' := h.set hi (.ended result)
  have hnew : i ∉ c.finished := fun hmem => by
    rw [h.ended i hmem] at hi
    cases hi
  obtain ⟨hresult, hafter⟩ := hc.unique (comesTo_operation (tasks i) c.kept c.kept)
  have hturn : inTurn tasks (c.finished ++ [i]) rows =
      ((inTurn tasks c.finished rows).1 ++
          [(Session.runOne .memory (Session.outside .memory) (tasks i).operation c.kept ()
            c.kept).1],
        after) := by
    unfold inTurn
    rw [List.map_append, Session.run_append]
    have hkept := h.kept
    unfold inTurn at hkept
    rw [hkept, List.map_singleton, Session.run_cons, hafter]
    rfl
  refine ⟨?_, fun j hj => ?_, ?_, ?_⟩
  · exact List.nodup_append.mpr ⟨h.nodup, List.nodup_singleton i, fun j hj k hk he =>
      hnew (List.mem_singleton.mp hk ▸ he ▸ hj)⟩
  · rcases List.mem_append.mp hj with hj | hj
    · exact h'.ended j hj
    · rw [List.mem_singleton.mp hj]
      exact congrArg Progress.isOver (set_progress_self c i (.ended result) after)
  · exact congrArg Prod.snd hturn
  · have hlast : ((c.set i (.ended result) after).progress i).result?.map Ending.withoutEmail =
        some result.withoutEmail := by
      rw [set_progress_self]
      rfl
    show (inTurn tasks (c.finished ++ [i]) rows).1.map _ =
      (c.finished ++ [i]).map fun j =>
        ((c.set i (.ended result) after).progress j).result?.map Ending.withoutEmail
    rw [hturn, List.map_append, List.map_append, h.results, List.map_singleton, List.map_singleton,
      hlast, hresult]
    exact congrArg (· ++ _) (h.results.symm.trans h'.results)

theorem InTurn.step (h : InTurn tasks rows c) {move : ι × Move}
    (hs : Step (fun i => .ok (tasks i)) c move c') : InTurn tasks rows c' := by
  cases hs with
  | idle hi => exact h
  | onward hi ho hl => exact h.set hi _
  | finish hi hc => exact h.finish hi hc
  | leave hi hm => exact h.set hi _

omit [DecidableEq ι] in
theorem inTurn_initial (tasks : ι → Task) (rows : Rows) :
    InTurn tasks rows (initial (fun i => .ready (tasks i)) rows) :=
  ⟨List.nodup_nil, fun _ h => absurd h List.not_mem_nil, rfl, rfl⟩

/-- Whoever is over, and has only been advanced, has finished. -/
theorem mem_finished_of_over {plans : ι → Plan} (hl : c.LedBy plans) {i : ι}
    (h : (c.progress i).isOver = true → i ∈ c.finished) {moves : List (ι × Move)}
    (hm : ∀ move, (i, move) ∈ moves → move = .advance) :
    ((c.run .memory moves).progress i).isOver = true → i ∈ (c.run .memory moves).finished := by
  refine run_induction (motive := fun c => (c.progress i).isOver = true → i ∈ c.finished) moves hl h
    fun c move c' hmem _ ih hs ho => ?_
  cases hs with
  | idle hi => exact ih ho
  | @onward j next hj hnext hl' =>
    rcases eq_or_ne i j with rfl | hne
    · rw [set_progress_self, hnext] at ho
      cases ho
    · rw [set_progress_of_ne hne] at ho
      exact ih ho
  | @finish j result after hj hc =>
    rcases eq_or_ne i j with rfl | hne
    · exact List.mem_append_right _ (List.mem_singleton_self i)
    · refine List.mem_append_left _ (ih ?_)
      rwa [← set_progress_of_ne hne c (.ended result) after]
  | @leave j m ending hj hm' =>
    rcases eq_or_ne i j with rfl | hne
    · exact absurd (hm m hmem) hm'
    · rw [set_progress_of_ne hne] at ho
      exact ih ho

/-- **A crowd comes to the same as a session.** Whatever the order of the steps, and whoever aborts
or is dropped on the way: those who finish come to what they come to when they are done one after
another in the order in which they finished, but for the address named when one is taken, and the
rows are the same in the end. Everybody who came to an end without aborting or being dropped is
among them, once. -/
theorem crowd_eq_session (tasks : ι → Task) (rows : Rows) (moves : List (ι × Move)) :
    let c := (initial (fun i => .ready (tasks i)) rows).run .memory moves
    let session := Session.run .memory (c.finished.map fun i => (tasks i).operation) rows
    session.2 = c.kept ∧
    session.1.map (fun step => some step.outcome.withoutEmail) =
      c.finished.map (fun i => (c.progress i).result?.map Ending.withoutEmail) ∧
    c.finished.Nodup ∧
    ∀ i, (c.progress i).isOver = true → (∀ move, (i, move) ∈ moves → move = .advance) →
      i ∈ c.finished := by
  have hl : (initial (fun i => .ready (tasks i)) rows).LedBy fun i => .ok (tasks i) := fun _ => rfl
  have h : InTurn tasks rows ((initial (fun i => .ready (tasks i)) rows).run .memory moves) :=
    run_induction moves hl (inTurn_initial tasks rows) fun _ _ _ _ _ ih hs => ih.step hs
  refine ⟨h.kept, h.results, h.nodup, fun i ho hm => ?_⟩
  exact mem_finished_of_over hl (fun ho => by cases ho) hm ho

end Crowd

end UserAccounts
