/-
# Calls from many sides

Callers use what is kept at the same time: they create and find users outside
transactions, and within transactions that overlap in any way. A transaction that
starts while another is under way may be one inside it; for what is kept it makes
no difference. `Situation.run` answers calls in the order in which they come in.
Each transaction is started once, and then under way until it is finished: its
body returns, fails or is dropped. Within it calls are free to go on after one
that failed.

In memory a call does one of few things (`Step`, `step_answer`): it starts a
transaction, creates a user outside or in a draft, commits a draft for which there
is room, ends a transaction otherwise, or changes nothing. So committed rows are
in good order, each transaction's draft holds what was created in it, and no two
users of it share an address (`Tracked`).

Key definitions: `Call`, `Reply`, `Situation`, `Situation.answer`,
`Situation.run`, `Step`, `Tracked`.
Key theorems: `step_answer`, `Tracked.run`, `Tracked.extends_of_run`,
`run_without`, `memory_safe`.
-/
import Mathlib.Logic.Function.Basic
import UserAccounts.Proofs.Store.Rows

namespace UserAccounts

/-- How far a transaction has come. -/
inductive Phase (δ : Type) where
  | ahead
  | underWay (draft : δ)
  | ended

/-- A call on the kept users: outside transactions, or on the transaction `t`. -/
inductive Call (ι : Type) where
  | create (user : User)
  | find (email : String)
  | start (t : ι)
  | createIn (t : ι) (user : User)
  | findIn (t : ι) (email : String)
  /-- The body of `t` has ended, so `t` ends. -/
  | finish (t : ι) (ending : Ending Unit)

/-- What a call is answered. -/
inductive Reply where
  | user (result : Except Failure User)
  | started
  | ended (result : Ending Unit)
  /-- The transaction is not where the call would find it. -/
  | impossible

/-- What is kept, and how far each transaction has come. -/
structure Situation (ι σ δ : Type) where
  kept : σ
  phase : ι → Phase δ

namespace Call

variable {ι : Type} [DecidableEq ι]

def isOn (t : ι) : Call ι → Bool
  | .create _ => false
  | .find _ => false
  | .start u => u = t
  | .createIn u _ => u = t
  | .findIn u _ => u = t
  | .finish u _ => u = t

/-- The user that a call, with this reply, has created within the transaction `t`. -/
def createdIn? (t : ι) : Call ι → Reply → Option User
  | .createIn u user, .user (.ok _) => if u = t then some user else none
  | _, _ => none

/-- Whether a call, with this reply, has committed the transaction `t`. -/
def hasCommitted (t : ι) : Call ι → Reply → Bool
  | .finish u _, .ended (.returned ()) => u = t
  | _, _ => false

end Call

namespace Situation

variable {ι σ δ : Type} [DecidableEq ι]

def initial (kept : σ) : Situation ι σ δ :=
  ⟨kept, fun _ => .ahead⟩

def set (s : Situation ι σ δ) (t : ι) (phase : Phase δ) (kept : σ) : Situation ι σ δ :=
  ⟨kept, Function.update s.phase t phase⟩

/-- Does something within `t`, if it is under way. -/
def within (s : Situation ι σ δ) (t : ι) (act : δ → Reply × Phase δ × σ) :
    Reply × Situation ι σ δ :=
  match s.phase t with
  | .underWay draft =>
    let (reply, phase, kept) := act draft
    (reply, s.set t phase kept)
  | _ => (.impossible, s)

def answer (p : Persistence σ δ) (s : Situation ι σ δ) : Call ι → Reply × Situation ι σ δ
  | .create user =>
    let (result, kept) := p.create user s.kept
    (.user result, { s with kept })
  | .find email =>
    let (result, kept) := p.find email s.kept
    (.user result, { s with kept })
  | .start t =>
    match s.phase t with
    | .ahead =>
      match p.start s.kept with
      | (.ok draft, kept) => (.started, s.set t (.underWay draft) kept)
      | (.error failure, kept) => (.ended (.failed failure), s.set t .ended kept)
    | _ => (.impossible, s)
  | .createIn t user =>
    s.within t fun draft =>
      let (result, draft, kept) := p.createIn user draft s.kept
      (.user result, .underWay draft, kept)
  | .findIn t email =>
    s.within t fun draft =>
      let (result, draft, kept) := p.findIn email draft s.kept
      (.user result, .underWay draft, kept)
  | .finish t ending =>
    s.within t fun draft =>
      let (result, kept) := p.close ending draft s.kept
      (.ended result, .ended, kept)

/-- Answers calls one after another: each call with its reply, and the situation in the end. -/
def run (p : Persistence σ δ) : List (Call ι) → Situation ι σ δ →
    List (Call ι × Reply) × Situation ι σ δ
  | [], s => ([], s)
  | call :: calls, s =>
    let (reply, s) := s.answer p call
    let (trace, s) := run p calls s
    ((call, reply) :: trace, s)

/-- The users that a trace shows to have been created within `t`, oldest first. -/
def createdIn (t : ι) (trace : List (Call ι × Reply)) : List User :=
  trace.filterMap fun exchange => exchange.1.createdIn? t exchange.2

end Situation

namespace Situation

variable {ι : Type} [DecidableEq ι] {s s' : Situation ι Rows Draft} {past : List (Call ι × Reply)}

@[simp] theorem set_kept {σ δ : Type} (s : Situation ι σ δ) (t : ι) (phase : Phase δ) (kept : σ) :
    (s.set t phase kept).kept = kept := rfl

@[simp] theorem set_phase_self {σ δ : Type} (s : Situation ι σ δ) (t : ι) (phase : Phase δ)
    (kept : σ) : (s.set t phase kept).phase t = phase :=
  Function.update_self ..

theorem set_phase_of_ne {σ δ : Type} {t u : ι} (h : u ≠ t) (s : Situation ι σ δ) (phase : Phase δ)
    (kept : σ) : (s.set t phase kept).phase u = s.phase u :=
  Function.update_of_ne h ..

theorem set_eq_self {σ δ : Type} {s : Situation ι σ δ} {t : ι} {phase : Phase δ}
    (h : s.phase t = phase) : s.set t phase s.kept = s := by
  unfold set
  rw [← h, Function.update_eq_self]

/-! ### What a call can do -/

/-- What a call can do to users kept in memory. -/
inductive Step (s : Situation ι Rows Draft) : Call ι → Reply → Situation ι Rows Draft → Prop where
  /-- Nothing changes. -/
  | idle {call : Call ι} {reply : Reply} (hc : ∀ t, call.createdIn? t reply = none)
      (hf : ∀ t, call.hasCommitted t reply = false) : Step s call reply s
  | create {user : User} (hfree : s.kept.contains user.email = false) :
      Step s (.create user) (.user (.ok user)) { s with kept := s.kept.extend [user] }
  | start {t : ι} (hp : s.phase t = .ahead) :
      Step s (.start t) .started (s.set t (.underWay .empty) s.kept)
  | createIn {t : ι} {user : User} {draft more : Draft} (hp : s.phase t = .underWay draft)
      (hc : draft.create s.kept user = .ok more) :
      Step s (.createIn t user) (.user (.ok user)) (s.set t (.underWay more) s.kept)
  | commit {t : ι} {draft : Draft} {kept : Rows} (hp : s.phase t = .underWay draft)
      (hc : draft.commit s.kept = .ok kept) :
      Step s (.finish t (.returned ())) (.ended (.returned ())) (s.set t .ended kept)
  | leave {t : ι} {draft : Draft} {ending result : Ending Unit} (hp : s.phase t = .underWay draft)
      (hr : result ≠ .returned ()) :
      Step s (.finish t ending) (.ended result) (s.set t .ended s.kept)

theorem step_within {call : Call ι} {t : ι} {act : Draft → Reply × Phase Draft × Rows}
    (hc : ∀ u, call.createdIn? u .impossible = none)
    (hf : ∀ u, call.hasCommitted u .impossible = false)
    (h : ∀ draft, s.phase t = .underWay draft →
      Step s call (act draft).1 (s.set t (act draft).2.1 (act draft).2.2)) :
    Step s call (s.within t act).1 (s.within t act).2 := by
  unfold within
  split
  · rename_i draft hp
    exact h draft hp
  · exact .idle hc hf

/-- An answer does nothing else. -/
theorem step_answer (s : Situation ι Rows Draft) (call : Call ι) :
    Step s call (s.answer .memory call).1 (s.answer .memory call).2 := by
  cases call with
  | create user =>
    unfold answer
    cases hfree : s.kept.contains user.email with
    | false =>
      simp only [Persistence.memory_create_of_free hfree]
      exact .create hfree
    | true =>
      simp only [Persistence.memory_create_of_taken hfree]
      exact .idle (fun _ => rfl) fun _ => rfl
  | find email => exact .idle (fun _ => rfl) fun _ => rfl
  | start t =>
    simp only [answer]
    split
    · rename_i hp
      exact .start hp
    · exact .idle (fun _ => rfl) fun _ => rfl
  | createIn t user =>
    refine step_within (fun _ => rfl) (fun _ => rfl) fun draft hp => ?_
    cases hc : draft.create s.kept user with
    | ok more =>
      simp only [Persistence.memory_createIn_of_ok hc]
      exact .createIn hp hc
    | error failure =>
      simp only [Persistence.memory_createIn_of_error hc, set_eq_self hp]
      exact .idle (fun _ => rfl) fun _ => rfl
  | findIn t email =>
    refine step_within (fun _ => rfl) (fun _ => rfl) fun draft hp => ?_
    simp only [Persistence.memory, set_eq_self hp]
    exact .idle (fun _ => rfl) fun _ => rfl
  | finish t ending =>
    refine step_within (fun _ => rfl) (fun _ => rfl) fun draft hp => ?_
    cases ending with
    | returned value =>
      cases hc : draft.commit s.kept with
      | ok kept =>
        simp only [Persistence.close, Persistence.memory_commit_of_ok hc]
        exact .commit hp hc
      | error failure =>
        simp only [Persistence.close, Persistence.memory_commit_of_error hc]
        exact .leave hp (by simp)
    | failed failure => exact .leave hp (by simp [Persistence.close])
    | dropped => exact .leave hp (by simp [Persistence.close])

/-! ### Runs -/

theorem run_cons {σ δ : Type} (p : Persistence σ δ) (call : Call ι) (calls : List (Call ι))
    (s : Situation ι σ δ) :
    s.run p (call :: calls) =
      ((call, (s.answer p call).1) :: ((s.answer p call).2.run p calls).1,
        ((s.answer p call).2.run p calls).2) := rfl

theorem createdIn_append (t : ι) (past trace : List (Call ι × Reply)) :
    createdIn t (past ++ trace) = createdIn t past ++ createdIn t trace :=
  List.filterMap_append

theorem createdIn_singleton (t : ι) (call : Call ι) (reply : Reply) :
    createdIn t [(call, reply)] = (call.createdIn? t reply).toList := by
  unfold createdIn
  cases h : call.createdIn? t reply <;> simp [h]

/-- What holds of users in memory after the calls of a trace. -/
structure Tracked (past : List (Call ι × Reply)) (s : Situation ι Rows Draft) : Prop where
  wellKept : s.kept.WellKept
  ahead : ∀ t, s.phase t = .ahead → createdIn t past = []
  drafted : ∀ t draft, s.phase t = .underWay draft → draft.users = createdIn t past
  distinct : ∀ t draft, s.phase t = .underWay draft → draft.Distinct

theorem tracked_initial : Tracked [] (initial Rows.empty : Situation ι Rows Draft) where
  wellKept := Rows.wellKept_empty
  ahead _ _ := rfl
  drafted _ _ h := by cases h
  distinct _ _ h := by cases h

theorem createdIn_of_quiet {call : Call ι} {reply : Reply} {t : ι}
    (h : call.createdIn? t reply = none) :
    createdIn t (past ++ [(call, reply)]) = createdIn t past := by
  rw [createdIn_append, createdIn_singleton, h]
  exact List.append_nil _

/-- One transaction comes to another phase, and the traces agree on all others. -/
theorem Tracked.set {past' : List (Call ι × Reply)} {t : ι} {phase : Phase Draft} {kept : Rows}
    (h : Tracked past s) (hw : kept.WellKept)
    (hothers : ∀ u, u ≠ t → createdIn u past' = createdIn u past) (hahead : phase ≠ .ahead)
    (hdraft : ∀ draft, phase = .underWay draft → draft.users = createdIn t past' ∧ draft.Distinct) :
    Tracked past' (s.set t phase kept) := by
  refine ⟨hw, fun u hu => ?_, fun u draft hu => ?_, fun u draft hu => ?_⟩
  all_goals
    rcases eq_or_ne u t with rfl | hne
  · exact absurd (by simpa using hu) hahead
  · rw [hothers u hne]
    exact h.ahead u (by rwa [set_phase_of_ne hne] at hu)
  · exact (hdraft draft (by simpa using hu)).1
  · rw [hothers u hne]
    exact h.drafted u draft (by rwa [set_phase_of_ne hne] at hu)
  · exact (hdraft draft (by simpa using hu)).2
  · exact h.distinct u draft (by rwa [set_phase_of_ne hne] at hu)

/-- The users of a draft that commits had room among the rows. -/
theorem Tracked.room_of_commit {t : ι} {draft : Draft} {kept : Rows} (h : Tracked past s)
    (hp : s.phase t = .underWay draft) (hc : draft.commit s.kept = .ok kept) :
    s.kept.HasRoomFor (createdIn t past) ∧ kept = s.kept.extend (createdIn t past) := by
  rw [← h.drafted t draft hp]
  exact (Draft.commit_eq_ok_iff (h.distinct t draft hp)).mp hc

theorem Tracked.step {call : Call ι} {reply : Reply} (h : Tracked past s)
    (hs : Step s call reply s') : Tracked (past ++ [(call, reply)]) s' := by
  cases hs with
  | idle hc hf =>
    have hsame : ∀ t, createdIn t (past ++ [(call, reply)]) = createdIn t past := fun t =>
      createdIn_of_quiet (hc t)
    refine ⟨h.wellKept, fun t ht => ?_, fun t draft ht => ?_, h.distinct⟩
    · rw [hsame, h.ahead t ht]
    · rw [hsame, h.drafted t draft ht]
  | create hfree =>
    refine ⟨h.wellKept.extend (Rows.hasRoomFor_singleton.mpr hfree), fun t ht => ?_,
      fun t draft ht => ?_, h.distinct⟩
    · rw [createdIn_of_quiet rfl, h.ahead t ht]
    · rw [createdIn_of_quiet rfl, h.drafted t draft ht]
  | @start t hp =>
    refine h.set h.wellKept (fun u _ => createdIn_of_quiet rfl) (by simp) fun draft hd => ?_
    obtain rfl : Draft.empty = draft := by simpa using hd
    rw [createdIn_of_quiet rfl, h.ahead t hp]
    exact ⟨rfl, Draft.distinct_empty⟩
  | @createIn t user draft more hp hc =>
    refine h.set h.wellKept (fun u hu => createdIn_of_quiet ?_) (by simp) fun draft' hd => ?_
    · simp [Call.createdIn?, hu.symm]
    · obtain rfl : more = draft' := by simpa using hd
      refine ⟨?_, (h.distinct t draft hp).create hc⟩
      obtain ⟨-, rfl⟩ := Draft.create_eq_ok_iff.mp hc
      rw [createdIn_append, createdIn_singleton, h.drafted t draft hp]
      simp [Call.createdIn?]
  | @commit t draft kept hp hc =>
    obtain ⟨hroom, rfl⟩ := h.room_of_commit hp hc
    exact h.set (h.wellKept.extend hroom) (fun u _ => createdIn_of_quiet rfl) (by simp)
      fun draft hd => by cases hd
  | leave hp hr =>
    exact h.set h.wellKept (fun u _ => createdIn_of_quiet rfl) (by simp) fun draft hd => by cases hd

theorem Tracked.run : ∀ (calls : List (Call ι)) {past : List (Call ι × Reply)}
    {s : Situation ι Rows Draft}, Tracked past s →
      Tracked (past ++ (s.run .memory calls).1) (s.run .memory calls).2
  | [], past, s, h => by
    rw [Situation.run, List.append_nil]
    exact h
  | call :: calls, past, s, h => by
    have h' := (h.step (step_answer s call)).run calls
    rw [List.append_assoc] at h'
    rw [run_cons]
    exact h'

/-! ### Rows only grow -/

theorem Tracked.extends_of_step {call : Call ι} {reply : Reply} (h : Tracked past s)
    (hs : Step s call reply s') : ∃ users, s'.kept = s.kept.extend users := by
  cases hs with
  | idle hc hf => exact ⟨[], (Rows.extend_nil _).symm⟩
  | @create user hfree => exact ⟨[user], rfl⟩
  | start hp => exact ⟨[], (Rows.extend_nil _).symm⟩
  | createIn hp hc => exact ⟨[], (Rows.extend_nil _).symm⟩
  | commit hp hc => exact ⟨_, (h.room_of_commit hp hc).2⟩
  | leave hp hr => exact ⟨[], (Rows.extend_nil _).symm⟩

/-- Whatever is called, users are added behind the rows there are. -/
theorem Tracked.extends_of_run : ∀ (calls : List (Call ι)) {past : List (Call ι × Reply)}
    {s : Situation ι Rows Draft}, Tracked past s →
      ∃ users, (s.run .memory calls).2.kept = s.kept.extend users
  | [], _, s, _ => ⟨[], (Rows.extend_nil _).symm⟩
  | call :: calls, past, s, h => by
    have hs := step_answer s call
    obtain ⟨first, h1⟩ := h.extends_of_step hs
    obtain ⟨rest, h2⟩ := (h.step hs).extends_of_run calls
    refine ⟨first ++ rest, ?_⟩
    rw [run_cons, h2, h1, Rows.extend_extend]

/-! ### A transaction whose body returns -/

theorem Tracked.finish_of_room {t : ι} {draft : Draft} (h : Tracked past s)
    (hp : s.phase t = .underWay draft) (hroom : s.kept.HasRoomFor (createdIn t past)) :
    s.answer .memory (.finish t (.returned ())) =
      (.ended (.returned ()), s.set t .ended (s.kept.extend (createdIn t past))) := by
  rw [← h.drafted t draft hp] at hroom ⊢
  simp only [answer, within, hp, Persistence.close,
    Persistence.memory_commit_of_ok (Draft.commit_of_room hroom)]

theorem Tracked.finish_of_no_room {t : ι} {draft : Draft} (h : Tracked past s)
    (hp : s.phase t = .underWay draft) (hroom : ¬ s.kept.HasRoomFor (createdIn t past)) :
    ∃ user ∈ createdIn t past, s.kept.contains user.email = true ∧
      s.answer .memory (.finish t (.returned ())) =
        (.ended (.failed (emailTaken user)), s.set t .ended s.kept) := by
  cases hc : draft.commit s.kept with
  | ok kept => exact absurd (h.room_of_commit hp hc).1 hroom
  | error failure =>
    obtain ⟨user, hu, htaken, rfl⟩ := Draft.commit_eq_error hc
    refine ⟨user, h.drafted t draft hp ▸ hu, htaken, ?_⟩
    simp only [answer, within, hp, Persistence.close, Persistence.memory_commit_of_error hc]

/-! ### A transaction that does not commit -/

/-- The situations differ at most in how far `t` has come. -/
structure AgreeExcept {σ δ : Type} (t : ι) (s s' : Situation ι σ δ) : Prop where
  kept : s.kept = s'.kept
  phase : ∀ u, u ≠ t → s.phase u = s'.phase u

theorem AgreeExcept.set {σ δ : Type} {t : ι} {s s' : Situation ι σ δ} (h : AgreeExcept t s s')
    (u : ι) (phase : Phase δ) (kept : σ) :
    AgreeExcept t (s.set u phase kept) (s'.set u phase kept) := by
  refine ⟨rfl, fun v hv => ?_⟩
  rcases eq_or_ne v u with rfl | hne
  · rw [set_phase_self, set_phase_self]
  · rw [set_phase_of_ne hne, set_phase_of_ne hne, h.phase v hv]

theorem AgreeExcept.within {σ δ : Type} {t u : ι} {s s' : Situation ι σ δ}
    (h : AgreeExcept t s s') (hu : u ≠ t) (act : δ → Reply × Phase δ × σ) :
    (s.within u act).1 = (s'.within u act).1 ∧
      AgreeExcept t (s.within u act).2 (s'.within u act).2 := by
  unfold Situation.within
  rw [← h.phase u hu]
  split
  · exact ⟨rfl, h.set u _ _⟩
  · exact ⟨rfl, h⟩

/-- A call that is not on `t` is answered without regard to `t`. -/
theorem AgreeExcept.answer {σ δ : Type} {t : ι} {s s' : Situation ι σ δ} (h : AgreeExcept t s s')
    (p : Persistence σ δ) {call : Call ι} (hc : call.isOn t = false) :
    (s.answer p call).1 = (s'.answer p call).1 ∧
      AgreeExcept t (s.answer p call).2 (s'.answer p call).2 := by
  cases call with
  | create user =>
    simp only [Situation.answer, h.kept, true_and]
    exact ⟨rfl, h.phase⟩
  | find email =>
    simp only [Situation.answer, h.kept, true_and]
    exact ⟨rfl, h.phase⟩
  | start u =>
    have hu : u ≠ t := by simpa [Call.isOn] using hc
    simp only [Situation.answer, ← h.phase u hu, h.kept]
    split
    · split
      · exact ⟨rfl, h.set u _ _⟩
      · exact ⟨rfl, h.set u _ _⟩
    · exact ⟨rfl, h⟩
  | createIn u user =>
    have hu : u ≠ t := by simpa [Call.isOn] using hc
    simp only [Situation.answer, h.kept]
    exact h.within hu _
  | findIn u email =>
    have hu : u ≠ t := by simpa [Call.isOn] using hc
    simp only [Situation.answer, h.kept]
    exact h.within hu _
  | finish u ending =>
    have hu : u ≠ t := by simpa [Call.isOn] using hc
    simp only [Situation.answer, h.kept]
    exact h.within hu _

/-- A call on `t` that does not commit it changes nothing but how far `t` has come. -/
theorem Step.agreeExcept {call : Call ι} {reply : Reply} {t : ι} (hs : Step s call reply s')
    (hon : call.isOn t = true) (hc : call.hasCommitted t reply = false) : AgreeExcept t s' s := by
  have hset : ∀ {u : ι} {phase : Phase Draft}, u = t → AgreeExcept t (s.set u phase s.kept) s := by
    rintro u phase rfl
    exact ⟨rfl, fun v hv => set_phase_of_ne hv ..⟩
  cases hs with
  | idle => exact ⟨rfl, fun _ _ => rfl⟩
  | create hfree => simp [Call.isOn] at hon
  | start hp => exact hset (by simpa [Call.isOn] using hon)
  | createIn hp hc => exact hset (by simpa [Call.isOn] using hon)
  | commit hp hc' =>
    simp only [Call.isOn, Call.hasCommitted] at hon hc
    rw [hon] at hc
    cases hc
  | leave hp hr => exact hset (by simpa [Call.isOn] using hon)

/-- **What does not commit leaves no trace.** Without the calls on `t`, all others are answered
the same, and the same is kept. -/
theorem run_without {t : ι} : ∀ {calls : List (Call ι)} {s s' : Situation ι Rows Draft},
    AgreeExcept t s s' →
    (∀ exchange ∈ (s.run .memory calls).1, exchange.1.hasCommitted t exchange.2 = false) →
      (s'.run .memory (calls.filter (!·.isOn t))).1 =
          (s.run .memory calls).1.filter (!·.1.isOn t) ∧
        AgreeExcept t (s.run .memory calls).2 (s'.run .memory (calls.filter (!·.isOn t))).2
  | [], _, _, h, _ => ⟨rfl, h⟩
  | call :: calls, s, s', h, hc => by
    rw [run_cons] at hc ⊢
    obtain ⟨hfirst, hrest⟩ := List.forall_mem_cons.mp hc
    cases hon : call.isOn t with
    | true =>
      have hagree := (step_answer s call).agreeExcept hon hfirst
      have h' : AgreeExcept t (s.answer .memory call).2 s' :=
        ⟨hagree.kept.trans h.kept, fun u hu => (hagree.phase u hu).trans (h.phase u hu)⟩
      simpa [hon] using run_without h' hrest
    | false =>
      obtain ⟨hreply, h'⟩ := h.answer .memory hon
      obtain ⟨htrace, hend⟩ := run_without h' hrest
      rw [List.filter_cons_of_pos (by simp [hon]), List.filter_cons_of_pos (by simp [hon]),
        run_cons, hreply, htrace]
      exact ⟨rfl, hend⟩

/-! ### Safety -/

/-- **Users in memory are safe from whatever is called, in whatever order.** Every row is under its
user's own address and no two users share one; no later call changes or removes a row; a
transaction whose body returns makes all users created in it visible together, and nothing else, or
changes nothing and fails; and one that has not committed has left the rows, and all answers to
other calls, as they would be without it. -/
theorem memory_safe (calls : List (Call ι)) :
    let start : Situation ι Rows Draft := initial Rows.empty
    let trace := (start.run .memory calls).1
    let s := (start.run .memory calls).2
    ((∀ entry ∈ s.kept.entries, entry.1 = entry.2.email) ∧
      (s.kept.entries.map (·.2.email)).Nodup) ∧
    (∀ later, s.kept.entries <+: (s.run .memory later).2.kept.entries ∧
      ∀ email user, s.kept.find email = .ok user →
        (s.run .memory later).2.kept.find email = .ok user) ∧
    (∀ t draft, s.phase t = .underWay draft →
      let users := createdIn t trace
      let (reply, after) := s.answer .memory (.finish t (.returned ()))
      (reply = .ended (.returned ()) ∧ after.kept.size = s.kept.size + users.length ∧
        (∀ user ∈ users, after.kept.find user.email = .ok user) ∧
        ∀ email, (∀ user ∈ users, user.email ≠ email) →
          after.kept.find email = s.kept.find email) ∨
      ((∃ user ∈ users, s.kept.contains user.email = true ∧
        reply = .ended (.failed (emailTaken user))) ∧ after.kept = s.kept)) ∧
    (∀ t, (∀ exchange ∈ trace, exchange.1.hasCommitted t exchange.2 = false) →
      let without := start.run .memory (calls.filter (!·.isOn t))
      without.1 = trace.filter (!·.1.isOn t) ∧ without.2.kept = s.kept) := by
  intro start trace s
  have h : Tracked trace s := tracked_initial.run calls
  refine ⟨⟨h.wellKept.ownEmail, ?_⟩, fun later => ?_, fun t draft hp => ?_, fun t ht => ?_⟩
  · have hmap : s.kept.entries.map (·.2.email) = s.kept.entries.map (·.1) :=
      List.map_congr_left fun entry he => (h.wellKept.ownEmail entry he).symm
    rw [hmap]
    exact h.wellKept.distinct
  · obtain ⟨users, hu⟩ := h.extends_of_run later
    rw [hu]
    refine ⟨⟨_, rfl⟩, fun email user hf => ?_⟩
    rw [Rows.find_eq_ok_iff] at hf ⊢
    exact Rows.get?_extend_of_some hf users
  · by_cases hroom : s.kept.HasRoomFor (createdIn t trace)
    · rw [h.finish_of_room hp hroom]
      refine Or.inl ⟨rfl, Rows.size_extend .., fun user hu => ?_, fun email he => ?_⟩
      · exact Rows.find_eq_ok_iff.mpr (Rows.get?_extend_of_mem hroom hu)
      · exact Rows.find_extend_of_ne he
    · obtain ⟨user, hu, htaken, heq⟩ := h.finish_of_no_room hp hroom
      rw [heq]
      exact Or.inr ⟨⟨user, hu, htaken, rfl⟩, rfl⟩
  · obtain ⟨htrace, hend⟩ := run_without ⟨rfl, fun _ _ => rfl⟩ ht
    exact ⟨htrace, hend.kept.symm⟩

end Situation

end UserAccounts
