/-
# What is seen from outside and from within a transaction

Someone looks at the users in memory from outside transactions, or from within one
that is under way (`View`). From outside the committed rows are seen; from within
the transaction's own users, and behind them the committed rows. Whether a user can
be created is not found out by looking: the draft and the rows are each asked for the
address once more. The two agree all the same: through a view a user can be created
exactly if nobody is found there under the address (`created_answer`).

What has been created stays to be seen. Outside, rows only grow, and what commits
goes under addresses that were free. Within a transaction its own users come first,
so whoever else commits a user under the same address meanwhile is not seen there
(`Situation.Keeps`, with its step and run lemmas). Others do not see the
transaction's users before it has committed: what they are answered does not depend
on how far it has come (`run_without`).

Nothing of this needs a situation that has come about by calls, so all is said of any
rows with any drafts over them.

Key definitions: `View`, `Situation.IsOpen`, `Situation.found`, `Situation.Keeps`,
`Situation.Created`.
Key theorems: `Draft.find_eq_notFound_iff`, `created_answer`, `Situation.Keeps.run`,
`views_hold`.
-/
import UserAccounts.Proofs.Store.Calls

namespace UserAccounts

namespace Rows

variable {rows : Rows} {email : String} {user : User}

theorem find_eq_notFound_iff :
    rows.find email = .error .notFound ↔ rows.contains email = false := by
  rw [← get?_eq_none_iff]
  unfold find
  cases rows.get? email <;> simp

theorem find?_insertEntry_of_ne {key : String} (h : key ≠ email) :
    ∀ entries : List (String × User),
      (insertEntry key user entries).find? (·.1 == email) = entries.find? (·.1 == email)
  | [] => by simp [insertEntry, h]
  | (e, u) :: rest => by
    have ih := find?_insertEntry_of_ne h rest
    unfold insertEntry
    by_cases he : e = key
    · subst he
      simp [h]
    · rw [if_neg he, List.find?_cons, List.find?_cons, ih]

theorem get?_insert_of_ne {key : String} (h : key ≠ email) :
    (rows.insert key user).get? email = rows.get? email := by
  unfold get? insert
  rw [find?_insertEntry_of_ne h]

end Rows

namespace Draft

variable {draft : Draft} {rows after : Rows} {email : String} {user : User}

theorem contains_eq_isSome (draft : Draft) (email : String) :
    draft.contains email = (draft.users.find? (·.email == email)).isSome :=
  List.isSome_find?.symm

theorem find_eq_notFound_iff :
    draft.find rows email = .error .notFound ↔
      draft.contains email = false ∧ rows.contains email = false := by
  rw [contains_eq_isSome, ← Rows.find_eq_notFound_iff]
  unfold find
  cases draft.users.find? (·.email == email) <;> simp

/-- The draft's own user is found, whatever is among the rows. -/
theorem find_own (h : draft.users.find? (·.email == email) = some user) (rows : Rows) :
    draft.find rows email = .ok user := by
  unfold find
  rw [h]

theorem find?_append_self (h : draft.contains user.email = false) :
    (draft.users ++ [user]).find? (·.email == user.email) = some user := by
  have hnone : draft.users.find? (·.email == user.email) = none := by
    rw [contains_eq_isSome] at h
    simpa using h
  rw [List.find?_append, hnone]
  simp

theorem find_append_of_ne (h : user.email ≠ email) (rows : Rows) :
    (⟨draft.users ++ [user]⟩ : Draft).find rows email = draft.find rows email := by
  have hnone : [user].find? (·.email == email) = none := by simp [h]
  unfold find
  rw [List.find?_append, hnone, Option.or_none]

/-- A commit replaces no row. -/
theorem get?_of_commit (hc : draft.commit rows = .ok after) (h : rows.get? email = some user) :
    after.get? email = some user := by
  have htaken := Rows.contains_of_get? h
  have hfold : ∀ (users : List User) {rows : Rows}, (∀ u ∈ users, u.email ≠ email) →
      (users.foldl (fun rows user => rows.insert user.email user) rows).get? email =
        rows.get? email := by
    intro users
    induction users with
    | nil => intro rows _; rfl
    | cons u users ih =>
      intro rows hne
      obtain ⟨hu, hrest⟩ := List.forall_mem_cons.mp hne
      rw [List.foldl_cons, ih hrest, Rows.get?_insert_of_ne hu]
  unfold commit at hc
  cases hfind : draft.users.find? (fun user => rows.contains user.email) with
  | some other => simp [hfind] at hc
  | none =>
    rw [hfind] at hc
    rw [← Except.ok.inj hc, hfold draft.users, h]
    rintro u hu rfl
    exact absurd htaken (List.find?_eq_none.mp hfind u hu)

end Draft

/-! ### Views -/

/-- From where someone looks at users: from outside transactions, or from within the transaction
`t`. -/
inductive View (ι : Type) where
  | outside
  | inside (t : ι)

namespace View

variable {ι : Type}

def create : View ι → User → Call ι
  | outside, user => .create user
  | inside t, user => .createIn t user

def find : View ι → String → Call ι
  | outside, email => .find email
  | inside t, email => .findIn t email

end View

/-- The draft holds the user first under the user's address, or there is no draft any more. -/
def Phase.Keeps (user : User) : Phase Draft → Prop
  | .ahead => False
  | .underWay draft => draft.users.find? (·.email == user.email) = some user
  | .ended => True

namespace Situation

variable {ι : Type} [DecidableEq ι] {s s' : Situation ι Rows Draft} {v : View ι} {t : ι}
  {draft : Draft} {user : User} {email : String}

/-- The view can be looked through: its transaction, if it is one's, is under way. -/
def IsOpen (s : Situation ι Rows Draft) : View ι → Prop
  | .outside => True
  | .inside t => ∃ draft, s.phase t = .underWay draft

/-- What is answered to who looks for an address through a view. -/
def found (s : Situation ι Rows Draft) (v : View ι) (email : String) : Reply :=
  (s.answer .memory (v.find email)).1

theorem found_outside (s : Situation ι Rows Draft) (email : String) :
    s.found .outside email = .user (s.kept.find email) := rfl

theorem found_inside (h : s.phase t = .underWay draft) (email : String) :
    s.found (.inside t) email = .user (draft.find s.kept email) := by
  simp only [found, View.find, answer, within, h, Persistence.memory]

/-! ### What has been created stays -/

/-- The user is there to stay in the view, as long as it can be looked through: among the rows, or
in the transaction's own draft. -/
def Keeps (s : Situation ι Rows Draft) (user : User) : View ι → Prop
  | .outside => s.kept.get? user.email = some user
  | .inside t => (s.phase t).Keeps user

theorem keeps_inside {ι : Type} {s : Situation ι Rows Draft} {t : ι}
    (h : s.phase t = .underWay draft) :
    s.Keeps user (.inside t) ↔ draft.users.find? (·.email == user.email) = some user := by
  show (s.phase t).Keeps user ↔ _
  rw [h]
  rfl

theorem Keeps.found (hk : s.Keeps user v) (ho : s.IsOpen v) :
    s.found v user.email = .user (.ok user) := by
  cases v with
  | outside =>
    rw [found_outside, Rows.find_eq_ok_iff.mpr hk]
  | inside t =>
    obtain ⟨draft, hp⟩ := ho
    rw [found_inside hp, Draft.find_own ((keeps_inside hp).mp hk)]

theorem Keeps.outside_step {call : Call ι} {reply : Reply} (hk : s.Keeps user .outside)
    (hs : Step s call reply s') : s'.Keeps user .outside := by
  cases hs with
  | idle hc hf => exact hk
  | create hfree => exact Rows.get?_extend_of_some hk _
  | start hp => exact hk
  | createIn hp hc => exact hk
  | commit hp hc => exact Draft.get?_of_commit hc hk
  | leave hp hr => exact hk

theorem Keeps.set {u : ι} {phase : Phase Draft} {kept : Rows} (hk : s.Keeps user (.inside t))
    (hsame : u = t → (s.set u phase kept).Keeps user (.inside t)) :
    (s.set u phase kept).Keeps user (.inside t) := by
  by_cases hu : u = t
  · exact hsame hu
  · show ((s.set u phase kept).phase t).Keeps user
    rw [set_phase_of_ne (Ne.symm hu)]
    exact hk

theorem Keeps.inside_step {call : Call ι} {reply : Reply} (hk : s.Keeps user (.inside t))
    (hs : Step s call reply s') : s'.Keeps user (.inside t) := by
  have hended : ∀ kept : Rows, (s.set t .ended kept).Keeps user (.inside t) := by
    intro kept
    show ((s.set t .ended kept).phase t).Keeps user
    rw [set_phase_self]
    trivial
  cases hs with
  | idle hc hf => exact hk
  | create hfree => exact hk
  | start hp =>
    refine hk.set ?_
    rintro rfl
    have hahead : (s.phase _).Keeps user := hk
    rw [hp] at hahead
    exact hahead.elim
  | @createIn u other draft more hp hc =>
    refine hk.set ?_
    rintro rfl
    obtain ⟨-, rfl⟩ := Draft.create_eq_ok_iff.mp hc
    rw [keeps_inside (set_phase_self ..), List.find?_append, (keeps_inside hp).mp hk]
    rfl
  | commit hp hc =>
    refine hk.set ?_
    rintro rfl
    exact hended _
  | leave hp hr =>
    refine hk.set ?_
    rintro rfl
    exact hended _

theorem Keeps.step {call : Call ι} {reply : Reply} (hk : s.Keeps user v)
    (hs : Step s call reply s') : s'.Keeps user v := by
  cases v with
  | outside => exact hk.outside_step hs
  | inside t => exact hk.inside_step hs

/-- Whatever is called, the user stays. -/
theorem Keeps.run : ∀ (calls : List (Call ι)) {s : Situation ι Rows Draft},
    s.Keeps user v → (s.run .memory calls).2.Keeps user v
  | [], _, hk => hk
  | call :: calls, s, hk => by
    rw [run_cons]
    exact (hk.step (step_answer s call)).run calls

/-! ### Creating a user through a view -/

/-- What can come of creating a user through a view. -/
inductive Created (s : Situation ι Rows Draft) (v : View ι) (user : User) :
    Reply × Situation ι Rows Draft → Prop where
  /-- Nobody was found under the address, and now the user is. -/
  | added {next : Situation ι Rows Draft}
      (hfree : s.found v user.email = .user (.error .notFound)) (hopen : next.IsOpen v)
      (hkeeps : next.Keeps user v)
      (hothers : ∀ email, email ≠ user.email → next.found v email = s.found v email) :
    Created s v user (.user (.ok user), next)
  /-- Somebody was found, and nothing changes. -/
  | refused (htaken : s.found v user.email ≠ .user (.error .notFound)) :
    Created s v user (.user (.error (emailTaken user)), s)

theorem created_outside (s : Situation ι Rows Draft) (user : User) :
    Created s .outside user (s.answer .memory (.create user)) := by
  unfold answer
  cases hfree : s.kept.contains user.email with
  | false =>
    simp only [Persistence.memory_create_of_free hfree]
    refine .added ?_ trivial ?_ fun email he => ?_
    · rw [found_outside, Rows.find_eq_notFound_iff.mpr hfree]
    · exact Rows.get?_extend_of_mem (Rows.hasRoomFor_singleton.mpr hfree)
        (List.mem_singleton_self user)
    · rw [found_outside, found_outside, Rows.find_extend_of_ne]
      simpa using he.symm
  | true =>
    simp only [Persistence.memory_create_of_taken hfree]
    refine .refused fun hnone => ?_
    rw [found_outside, Reply.user.injEq, Rows.find_eq_notFound_iff, hfree] at hnone
    cases hnone

theorem created_inside (hp : s.phase t = .underWay draft) (user : User) :
    Created s (.inside t) user (s.answer .memory (.createIn t user)) := by
  simp only [answer, within, hp]
  cases hc : draft.create s.kept user with
  | ok more =>
    obtain ⟨hfree, rfl⟩ := Draft.create_eq_ok_iff.mp hc
    have hnext : ∀ more : Draft, (s.set t (.underWay more) s.kept).phase t = .underWay more :=
      fun more => set_phase_self ..
    simp only [Persistence.memory_createIn_of_ok hc]
    refine .added ?_ ⟨_, hnext _⟩ ?_ fun email he => ?_
    · rw [found_inside hp, Draft.find_eq_notFound_iff.mpr hfree]
    · rw [keeps_inside (hnext _)]
      exact Draft.find?_append_self hfree.1
    · rw [found_inside hp, found_inside (hnext _), set_kept, Draft.find_append_of_ne he.symm]
  | error failure =>
    obtain ⟨htaken, rfl⟩ := Draft.create_eq_error hc
    simp only [Persistence.memory_createIn_of_error hc, set_eq_self hp]
    refine .refused fun hnone => ?_
    rw [found_inside hp, Reply.user.injEq, Draft.find_eq_notFound_iff] at hnone
    rcases htaken with htaken | htaken
    · rw [hnone.1] at htaken
      cases htaken
    · rw [hnone.2] at htaken
      cases htaken

/-- Creating a user through a view comes to one or the other. -/
theorem created_answer (ho : s.IsOpen v) (user : User) :
    Created s v user (s.answer .memory (v.create user)) := by
  cases v with
  | outside => exact created_outside s user
  | inside t =>
    obtain ⟨draft, hp⟩ := ho
    exact created_inside hp user

/-- **What is seen is what can be relied on.** In any situation, whatever calls have led to it:
through a view that can be looked through, from outside or from within a transaction, a user can be
created exactly if nobody is found under the address. Then the user is found there, as long as the
view can be looked through and whatever is called meanwhile, and under any other address the answer
is as before; if the user cannot be created, all answers through all views are. What a transaction
has done makes no difference to the calls of others before it has committed: had it come only so far
as any other `phase`, and were its calls left out, they would be answered the same. -/
theorem views_hold (s : Situation ι Rows Draft) :
    (∀ v user, s.IsOpen v →
      let (reply, next) := s.answer .memory (v.create user)
      (reply = .user (.ok user) ↔ s.found v user.email = .user (.error .notFound)) ∧
      (reply = .user (.ok user) →
        next.found v user.email = .user (.ok user) ∧
        (∀ email, email ≠ user.email → next.found v email = s.found v email) ∧
        ∀ later, (next.run .memory later).2.IsOpen v →
          (next.run .memory later).2.found v user.email = .user (.ok user)) ∧
      (reply ≠ .user (.ok user) →
        reply = .user (.error (emailTaken user)) ∧
        ∀ w email, next.found w email = s.found w email)) ∧
    ∀ t phase calls,
      (∀ exchange ∈ (s.run .memory calls).1, exchange.1.hasCommitted t exchange.2 = false) →
      let without := (s.set t phase s.kept).run .memory (calls.filter (!·.isOn t))
      without.1 = (s.run .memory calls).1.filter (!·.1.isOn t) ∧
        without.2.kept = (s.run .memory calls).2.kept := by
  constructor
  · intro v user ho
    have hcreated := created_answer ho user
    generalize s.answer .memory (v.create user) = answered at hcreated ⊢
    cases hcreated with
    | added hfree hopen hkeeps hothers =>
      refine ⟨⟨fun _ => hfree, fun _ => rfl⟩, fun _ => ⟨?_, hothers, ?_⟩, fun hne => absurd rfl hne⟩
      · exact hkeeps.found hopen
      · intro later hlater
        exact (hkeeps.run later).found hlater
    | refused htaken =>
      have hne : Reply.user (.error (emailTaken user)) ≠ .user (.ok user) := by simp
      exact ⟨⟨fun he => absurd he hne, fun hnone => absurd hnone htaken⟩, fun he => absurd he hne,
        fun _ => ⟨rfl, fun _ _ => rfl⟩⟩
  · intro t phase calls hopen
    have hagree : AgreeExcept t s (s.set t phase s.kept) :=
      ⟨rfl, fun u hu => (set_phase_of_ne hu ..).symm⟩
    obtain ⟨htrace, hend⟩ := run_without hagree hopen
    exact ⟨htrace, hend.kept.symm⟩

/-- One transaction has created a user, and another commits a different one under the same address:
the first goes on seeing its own, and outside the other is seen. -/
theorem own_user_seen_still :
    let start : Situation Bool Rows Draft :=
      ((initial Rows.empty).run .memory [.start true, .start false]).2
    let own : User := ⟨⟨.replicate 16 1⟩, "ada@example.com", [], "Ada", .active,
      ⟨0, 0, by decide, by decide, by decide⟩⟩
    let other : User := { own with id := ⟨.replicate 16 2⟩ }
    let (reply, next) := start.answer .memory (.createIn true own)
    let later := (next.run .memory [.createIn false other, .finish false (.returned ())]).2
    start.IsOpen (.inside true) ∧ reply = .user (.ok own) ∧ later.IsOpen (.inside true) ∧
      later.found (.inside true) "ada@example.com" = .user (.ok own) ∧
      later.found .outside "ada@example.com" = .user (.ok other) := by
  intro start own other
  have hopen : start.IsOpen (.inside true) := ⟨_, rfl⟩
  obtain ⟨hiff, hholds, -⟩ := (views_hold start).1 (.inside true) own hopen
  obtain ⟨-, -, hlater⟩ := hholds (hiff.mpr rfl)
  exact ⟨hopen, hiff.mpr rfl, ⟨_, rfl⟩, hlater _ ⟨_, rfl⟩, rfl⟩

end Situation

end UserAccounts
