/-
# Memory and table agree

Users are kept in memory, or in a table at the other end of a faithful connection.
A session of single operations and of transactions, one after another, comes to the
same with both (`memory_agrees_with_table`): each operation gives the same user, or
nobody has the address, or both fail for a reason inside; each transaction returns
with both or fails with both; and at every step the same users are committed.

The two differ in what makes a user collide: memory looks at addresses alone, the
table at identifiers as well. So the users of the session are taken from a pool in
which an identifier belongs to one address (`TellsEmails`).

The invariant is `Alike`: the rows of the table are those of the users that memory
sees. `AlikeWithin` is the same within a transaction, which in memory sees the
committed users and its draft; once something has failed in it, all that is known
of the table is that it can be rolled back (`Leaving`).

Key definitions: `Failure.Agrees`, `Step.Agrees`, `Operation.IsPlain`, `Alike`,
`AlikeWithin`.
Key theorems: `AlikeWithin.body`, `GoesOn.close`, `Alike.step`, `Alike.run`,
`memory_agrees_with_table`.
-/
import UserAccounts.Proofs.Sql.Faithful
import UserAccounts.Proofs.Store.Serial

namespace UserAccounts

/-! ### Users in memory -/

def Rows.users (rows : Rows) : List User :=
  rows.entries.map (·.2)

theorem Rows.users_extend (rows : Rows) (users : List User) :
    (rows.extend users).users = rows.users ++ users := by
  simp [Rows.users, Rows.extend, Function.comp_def]

namespace Rows.WellKept

variable {rows : Rows} {user : User} {email : String}

theorem map_email (h : rows.WellKept) :
    rows.users.map (·.email) = rows.entries.map (·.1) := by
  unfold Rows.users
  rw [List.map_map]
  exact List.map_congr_left fun entry hmem => (h.ownEmail entry hmem).symm

theorem contains_iff (h : rows.WellKept) :
    rows.contains email = true ↔ ∃ user ∈ rows.users, user.email = email := by
  have hmem : rows.contains email = true ↔ email ∈ rows.entries.map (·.1) := by
    simp [Rows.contains]
  rw [hmem, ← h.map_email, List.mem_map]

/-- No two users share an address. -/
theorem eq_of_email (h : rows.WellKept) {other : User} (hu : user ∈ rows.users)
    (ho : other ∈ rows.users) (he : other.email = user.email) : other = user := by
  have hnodup : (rows.users.map (·.email)).Nodup := by
    rw [h.map_email]
    exact h.distinct
  exact List.inj_on_of_nodup_map hnodup ho hu he

theorem find_known (h : rows.WellKept) (hu : user ∈ rows.users) :
    rows.find user.email = .ok user := by
  obtain ⟨other, hget⟩ := Rows.exists_get?_of_contains (h.contains_iff.mpr ⟨user, hu, rfl⟩)
  have hother : other ∈ rows.users ∧ other.email = user.email := by
    unfold Rows.get? at hget
    obtain ⟨entry, hfind, rfl⟩ := Option.map_eq_some_iff.mp hget
    have hentry := List.mem_of_find?_eq_some hfind
    have hkey : entry.1 = user.email := by simpa using List.find?_some hfind
    exact ⟨List.mem_map_of_mem hentry, (h.ownEmail entry hentry).symm.trans hkey⟩
  rw [Rows.find_eq_ok_iff, hget, h.eq_of_email hu hother.1 hother.2]

theorem find_unknown (h : rows.WellKept) (hnone : ∀ user ∈ rows.users, user.email ≠ email) :
    rows.find email = .error .notFound := by
  have hfree : rows.contains email = false := by
    rw [Bool.eq_false_iff, Ne, h.contains_iff]
    rintro ⟨user, hu, he⟩
    exact hnone user hu he
  unfold Rows.find
  rw [Rows.get?_eq_none_iff.mpr hfree]

end Rows.WellKept

/-! ### The same outcome -/

/-- Both say that there is no such user, or both fail for another reason inside. -/
def Failure.Agrees (failure other : Failure) : Prop :=
  (failure = .notFound ↔ other = .notFound) ∧
    failure.isInternal = true ∧ other.isInternal = true

theorem Failure.agrees_self {failure : Failure} (h : failure.isInternal = true) :
    failure.Agrees failure :=
  ⟨Iff.rfl, h, h⟩

theorem Failure.taken_agrees (user : User) (fault : Database.Fault) :
    (emailTaken user).Agrees (.database fault) :=
  ⟨by simp [emailTaken], rfl, rfl⟩

/-- Both give the same user, or fail in the same way. -/
inductive SameAnswer : Except Failure User → Except Failure User → Prop where
  | ok (user : User) : SameAnswer (.ok user) (.ok user)
  | error {failure other : Failure} (h : failure.Agrees other) :
    SameAnswer (.error failure) (.error other)

/-- Both return, or fail in the same way. -/
inductive SameEnding : Ending Unit → Ending Unit → Prop where
  | returned : SameEnding (.returned ()) (.returned ())
  | failed {failure other : Failure} (h : failure.Agrees other) :
    SameEnding (.failed failure) (.failed other)

/-- The steps came to the same, and what is kept is the same before and after. -/
inductive Step.Agrees {σ κ : Type} (same : σ → κ → Prop) : Step σ → Step κ → Prop where
  | user {result result' : Except Failure User} {before after : σ} {before' after' : κ}
      (h : SameAnswer result result') (hb : same before before') (ha : same after after') :
    Step.Agrees same (.user result before after) (.user result' before' after')
  | transaction {steps : List (Step σ)} {steps' : List (Step κ)} {result result' : Ending Unit}
      {before after : σ} {before' after' : κ} (hsteps : List.Forall₂ (Step.Agrees same) steps steps')
      (h : SameEnding result result') (hb : same before before') (ha : same after after') :
    Step.Agrees same (.transaction steps result before after)
      (.transaction steps' result' before' after')

/-! ### Plain sessions -/

/-- In the pool an identifier belongs to one address. -/
def TellsEmails (pool : Set User) : Prop :=
  ∀ user ∈ pool, ∀ other ∈ pool, other.id = user.id → other.email = user.email

/-- Creates a user of the pool, or finds one. -/
inductive Operation.IsSingle (pool : Set User) : Operation → Prop where
  | create {user : User} (h : user ∈ pool) : Operation.IsSingle pool (.create user)
  | find (email : String) : Operation.IsSingle pool (.find email)

/-- A single operation, or a transaction of single operations that ends with the first that fails,
and else commits or aborts. -/
inductive Operation.IsPlain (pool : Set User) : Operation → Prop where
  | single {operation : Operation} (h : operation.IsSingle pool) : operation.IsPlain pool
  | transaction {operations : List Operation} {intent : Intent}
      (h : ∀ operation ∈ operations, operation.IsSingle pool) (hi : intent ≠ .drop) :
    Operation.IsPlain pool (.transaction operations intent true)

namespace Sql

variable {κ : Type} {c : Connection κ} {view : κ → Standing (Set Row)} {pool : Set User}
  {rows : Rows} {draft : Draft} {k : κ}

/-- The users that memory keeps are those whose rows are committed in the table. -/
def SameUsers (view : κ → Standing (Set Row)) (rows : Rows) (k : κ) : Prop :=
  (view k).committed = rowsOf rows.users

/-- Outside transactions memory and table are alike, and hold users of the pool. -/
structure Alike (pool : Set User) (view : κ → Standing (Set Row)) (rows : Rows) (k : κ) :
    Prop where
  wellKept : rows.WellKept
  pooled : ∀ user ∈ rows.users, user ∈ pool
  view_eq : view k = .settled (rowsOf rows.users)

/-- Within a transaction memory and table are alike: the table shows the rows of the committed
users and of the draft. -/
structure AlikeWithin (pool : Set User) (view : κ → Standing (Set Row)) (rows : Rows)
    (draft : Draft) (k : κ) : Prop where
  wellKept : rows.WellKept
  room : rows.HasRoomFor draft.users
  pooled : ∀ user ∈ rows.users ++ draft.users, user ∈ pool
  view_eq : view k = .within (rowsOf (rows.users ++ draft.users)) (rowsOf rows.users)

theorem Alike.same (h : Alike pool view rows k) : SameUsers view rows k := by
  unfold SameUsers
  rw [h.view_eq]
  rfl

theorem AlikeWithin.same (h : AlikeWithin pool view rows draft k) : SameUsers view rows k := by
  unfold SameUsers
  rw [h.view_eq]
  rfl

/-- A transaction of the table that can be rolled back is under way, while memory keeps these
rows. -/
structure Leaving (view : κ → Standing (Set Row)) (rows : Rows) (k : κ) : Prop where
  underWay : ∀ seen, view k ≠ .settled seen
  same : SameUsers view rows k

theorem AlikeWithin.leaving (h : AlikeWithin pool view rows draft k) : Leaving view rows k where
  underWay seen hview := by
    rw [h.view_eq] at hview
    cases hview
  same := h.same

/-- A statement that fails leaves the transaction as it is or spoils it. -/
theorem Leaving.of_view (h : Leaving view rows k) {k' : κ}
    (hview : view k' = view k ∨ view k' = (view k).spoil) : Leaving view rows k' := by
  obtain ⟨hunderWay, hsame⟩ := h
  unfold SameUsers at hsame
  refine ⟨?_, ?_⟩
  · intro seen hsettled
    rcases hview with hview | hview <;> rw [hsettled] at hview
    · exact hunderWay seen hview.symm
    · cases hk : view k with
      | settled rows => exact hunderWay rows hk
      | within _ _ | spoilt _ =>
        rw [hk] at hview
        cases hview
  · unfold SameUsers
    rcases hview with hview | hview <;> rw [hview, ← hsame]
    cases view k <;> rfl

/-! ### Single operations within a transaction -/

namespace AlikeWithin

variable (h : AlikeWithin pool view rows draft k)

include h

theorem seen : (view k).seen? = some (rowsOf (rows.users ++ draft.users)) := by
  rw [h.view_eq]
  rfl

theorem taken_iff (email : String) :
    (draft.contains email || rows.contains email) = true ↔
      ∃ user ∈ rows.users ++ draft.users, user.email = email := by
  have hdraft : draft.contains email = true ↔ ∃ user ∈ draft.users, user.email = email := by
    simp [Draft.contains]
  rw [Bool.or_eq_true, hdraft, h.wellKept.contains_iff]
  constructor
  · rintro (⟨user, hu, he⟩ | ⟨user, hu, he⟩)
    · exact ⟨user, List.mem_append_right _ hu, he⟩
    · exact ⟨user, List.mem_append_left _ hu, he⟩
  · rintro ⟨user, hu, he⟩
    rcases List.mem_append.mp hu with hu | hu
    · exact .inr ⟨user, hu, he⟩
    · exact .inl ⟨user, hu, he⟩

/-- No two users that are seen share an address. -/
theorem eq_of_email {user other : User} (hu : user ∈ rows.users ++ draft.users)
    (ho : other ∈ rows.users ++ draft.users) (he : other.email = user.email) : other = user := by
  have hkept := h.wellKept.extend h.room
  rw [← Rows.users_extend] at hu ho
  exact hkept.eq_of_email hu ho he

theorem find_known {user : User} (hu : user ∈ rows.users ++ draft.users) :
    draft.find rows user.email = .ok user := by
  unfold Draft.find
  cases hfind : draft.users.find? (·.email == user.email) with
  | some other =>
    have hmem := List.mem_append_right rows.users (List.mem_of_find?_eq_some hfind)
    have he : other.email = user.email := by simpa using List.find?_some hfind
    exact congrArg Except.ok (h.eq_of_email hu hmem he)
  | none =>
    rcases List.mem_append.mp hu with hu | hu
    · exact h.wellKept.find_known hu
    · exact absurd (List.find?_eq_none.mp hfind user hu) (by simp)

theorem find_unknown {email : String}
    (hnone : ∀ user ∈ rows.users ++ draft.users, user.email ≠ email) :
    draft.find rows email = .error .notFound := by
  have hfind : draft.users.find? (·.email == email) = none :=
    List.find?_eq_none.mpr fun user hu => by simpa using hnone user (List.mem_append_right _ hu)
  unfold Draft.find
  rw [hfind]
  exact h.wellKept.find_unknown fun user hu => hnone user (List.mem_append_left _ hu)

theorem find (hc : c.Faithful view) (email : String) :
    SameAnswer (draft.find rows email) (c.find email k).1 ∧
      AlikeWithin pool view rows draft (c.find email k).2 := by
  by_cases hknown : ∃ user ∈ rows.users ++ draft.users, user.email = email
  · obtain ⟨user, hu, rfl⟩ := hknown
    obtain ⟨k', hfind, hview⟩ := hc.find_known h.seen hu fun other ho he => h.eq_of_email hu ho he
    rw [h.find_known hu, hfind]
    exact ⟨.ok user, h.wellKept, h.room, h.pooled, hview.trans h.view_eq⟩
  · have hnone : ∀ user ∈ rows.users ++ draft.users, user.email ≠ email :=
      fun user hu he => hknown ⟨user, hu, he⟩
    obtain ⟨k', hfind, hview⟩ := hc.find_unknown h.seen hnone
    rw [h.find_unknown hnone, hfind]
    exact ⟨.error (Failure.agrees_self rfl), h.wellKept, h.room, h.pooled,
      hview.trans h.view_eq⟩

/-- A user whose address is free is added to draft and table; one whose address is taken is refused
by both, and leaves a transaction of the table that can be rolled back. -/
theorem create (hc : c.Faithful view) (hpool : TellsEmails pool) {user : User}
    (huser : user ∈ pool) :
    (∃ more, draft.create rows user = .ok more ∧ (c.create user k).1 = .ok user ∧
      AlikeWithin pool view rows more (c.create user k).2) ∨
    (∃ fault, draft.create rows user = .error (emailTaken user) ∧
      (c.create user k).1 = .error (.database fault) ∧
      Leaving view rows (c.create user k).2) := by
  cases htaken : draft.contains user.email || rows.contains user.email with
  | true =>
    obtain ⟨fault, k', hcreate, hview⟩ :=
      hc.create_colliding h.seen ((h.taken_iff user.email).mp htaken)
    refine .inr ⟨fault, ?_, ?_, ?_⟩
    · unfold Draft.create
      rw [if_pos htaken]
    · rw [hcreate]
    · rw [hcreate]
      exact h.leaving.of_view hview
  | false =>
    have hfree : ∀ other ∈ rows.users ++ draft.users, other.email ≠ user.email := by
      intro other ho he
      have := (h.taken_iff user.email).mpr ⟨other, ho, he⟩
      rw [htaken] at this
      cases this
    obtain ⟨hdraft, hrows⟩ := Bool.or_eq_false_iff.mp htaken
    obtain ⟨k', hcreate, hview⟩ := hc.create_new h.seen
      (fun other ho hid => hpool user huser other (h.pooled other ho) hid) hfree
    have hmore : draft.create rows user = .ok ⟨draft.users ++ [user]⟩ :=
      Draft.create_eq_ok_iff.mpr ⟨⟨hdraft, hrows⟩, rfl⟩
    refine .inl ⟨_, hmore, by rw [hcreate], ?_⟩
    rw [hcreate]
    have hdistinct : Draft.Distinct ⟨draft.users ++ [user]⟩ :=
      Draft.Distinct.create h.room.distinct hmore
    have hroom : rows.HasRoomFor (draft.users ++ [user]) :=
      ⟨hdistinct, List.forall_mem_append.mpr ⟨h.room.free, List.forall_mem_singleton.mpr hrows⟩⟩
    refine ⟨h.wellKept, hroom, ?_, ?_⟩
    · rw [← List.append_assoc]
      exact List.forall_mem_append.mpr ⟨h.pooled, List.forall_mem_singleton.mpr huser⟩
    · rw [hview, h.view_eq, List.append_assoc]
      rfl

end AlikeWithin

/-! ### The body of a transaction -/

/-- What a part of a body came to: nothing has failed, or the same has failed in memory and in the
table. -/
def GoesOn (pool : Set User) (view : κ → Standing (Set Row)) (rows : Rows)
    (failure? failure'? : Option Failure) (draft : Draft) (k : κ) : Prop :=
  (failure? = none ∧ failure'? = none ∧ AlikeWithin pool view rows draft k) ∨
    ∃ failure failure', failure? = some failure ∧ failure'? = some failure' ∧
      failure.Agrees failure' ∧ Leaving view rows k

theorem GoesOn.leaving {failure? failure'? : Option Failure}
    (h : GoesOn pool view rows failure? failure'? draft k) : Leaving view rows k := by
  rcases h with ⟨-, -, h⟩ | ⟨_, _, -, -, -, h⟩
  · exact h.leaving
  · exact h

theorem AlikeWithin.single (h : AlikeWithin pool view rows draft k) (hc : c.Faithful view)
    (hpool : TellsEmails pool) {operation : Operation} (hop : operation.IsSingle pool)
    {before : Rows} {before' : κ} (hb : SameUsers view before before') :
    let m := Session.runOne .memory (Session.inside .memory) operation before draft rows
    let t := Session.runOne c.persistence (Session.inside c.persistence) operation before' () k
    Step.Agrees (SameUsers view) m.1 t.1 ∧ m.2.2 = rows ∧
      GoesOn pool view rows m.1.failure? t.1.failure? m.2.1 t.2.2 := by
  cases hop with
  | @create user huser =>
    rcases h.create hc hpool huser with
      ⟨more, hmore, hanswer, halike⟩ | ⟨fault, hmore, hanswer, hleaving⟩
    · have hm : Session.runOne .memory (Session.inside .memory) (.create user) before draft rows =
          (.user (.ok user) before rows, more, rows) := by
        simp only [Session.runOne, Session.inside_create, Persistence.memory_createIn_of_ok hmore]
      have ht : Session.runOne c.persistence (Session.inside c.persistence) (.create user) before' ()
          k = (.user (.ok user) before' (c.create user k).2, (), (c.create user k).2) := by
        rw [← hanswer]
        rfl
      rw [hm, ht]
      exact ⟨.user (.ok user) hb halike.same, rfl, .inl ⟨rfl, rfl, halike⟩⟩
    · have hm : Session.runOne .memory (Session.inside .memory) (.create user) before draft rows =
          (.user (.error (emailTaken user)) before rows, draft, rows) := by
        simp only [Session.runOne, Session.inside_create,
          Persistence.memory_createIn_of_error hmore]
      have ht : Session.runOne c.persistence (Session.inside c.persistence) (.create user) before' ()
          k = (.user (.error (.database fault)) before' (c.create user k).2, (),
            (c.create user k).2) := by
        rw [← hanswer]
        rfl
      have hagrees := Failure.taken_agrees user fault
      rw [hm, ht]
      exact ⟨.user (.error hagrees) hb hleaving.same, rfl,
        .inr ⟨_, _, rfl, rfl, hagrees, hleaving⟩⟩
  | find email =>
    obtain ⟨hanswer, halike⟩ := h.find hc email
    refine ⟨.user hanswer hb halike.same, rfl, ?_⟩
    show GoesOn pool view rows (Step.user (draft.find rows email) before rows).failure?
      (Step.user (c.find email k).1 before' (c.find email k).2).failure? draft (c.find email k).2
    generalize draft.find rows email = result at hanswer
    generalize (c.find email k).1 = result' at hanswer
    cases hanswer with
    | ok user => exact .inl ⟨rfl, rfl, halike⟩
    | error hagrees => exact .inr ⟨_, _, rfl, rfl, hagrees, halike.leaving⟩

/-- The body of a transaction that ends with the first failure. -/
theorem AlikeWithin.body (hc : c.Faithful view) (hpool : TellsEmails pool)
    {operations : List Operation} (hops : ∀ operation ∈ operations, operation.IsSingle pool)
    (h : AlikeWithin pool view rows draft k) {before : Rows} {before' : κ}
    (hb : SameUsers view before before') :
    let m := Session.runAll .memory (Session.inside .memory) operations true before draft rows
    let t := Session.runAll c.persistence (Session.inside c.persistence) operations true before' () k
    List.Forall₂ (Step.Agrees (SameUsers view)) m.1 t.1 ∧ SameUsers view m.2.2.1 t.2.2.1 ∧
      m.2.2.2.2 = rows ∧ GoesOn pool view rows m.2.1 t.2.1 m.2.2.2.1 t.2.2.2.2 := by
  induction operations generalizing draft k before before' with
  | nil => exact ⟨.nil, hb, rfl, .inl ⟨rfl, rfl, h⟩⟩
  | cons operation operations ih =>
    obtain ⟨hop, hrest⟩ := List.forall_mem_cons.mp hops
    obtain ⟨hstep, hrows, hgoes⟩ := h.single hc hpool hop hb
    simp only [Session.runAll]
    generalize Session.runOne .memory (Session.inside .memory) operation before draft rows = m at *
    generalize Session.runOne c.persistence (Session.inside c.persistence) operation before' () k =
      t at *
    obtain ⟨step, draft', rows'⟩ := m
    obtain ⟨step', ⟨⟩, k'⟩ := t
    obtain rfl : rows' = rows := hrows
    rcases hgoes with ⟨hnone, hnone', halike⟩ | ⟨failure, failure', hsome, hsome', hagrees, hleaving⟩
    · obtain ⟨hsteps, hleft, hsame, hend⟩ := ih hrest halike halike.same
      simp only at hnone hnone'
      simp only [hnone, hnone']
      exact ⟨.cons hstep hsteps, hleft, hsame, hend⟩
    · simp only at hsome hsome'
      simp only [hsome, hsome']
      exact ⟨.cons hstep .nil, hleaving.same, trivial, .inr ⟨_, _, rfl, rfl, hagrees, hleaving⟩⟩

/-! ### Operations outside transactions -/

/-- Memory and table are alike when both have got more users of the pool, for whom there was
room. -/
theorem Alike.extend (hkept : rows.WellKept) {users : List User} (hroom : rows.HasRoomFor users)
    (hpooled : ∀ user ∈ rows.users ++ users, user ∈ pool)
    (hview : view k = .settled (rowsOf (rows.users ++ users))) :
    Alike pool view (rows.extend users) k where
  wellKept := hkept.extend hroom
  pooled user hu := hpooled user (by rwa [Rows.users_extend] at hu)
  view_eq := by rw [hview, Rows.users_extend]

namespace Alike

variable (h : Alike pool view rows k)

include h

theorem seen : (view k).seen? = some (rowsOf rows.users) := by
  rw [h.view_eq]
  rfl

theorem find (hc : c.Faithful view) (email : String) :
    SameAnswer (rows.find email) (c.find email k).1 ∧ Alike pool view rows (c.find email k).2 := by
  by_cases hknown : ∃ user ∈ rows.users, user.email = email
  · obtain ⟨user, hu, rfl⟩ := hknown
    obtain ⟨k', hfind, hview⟩ :=
      hc.find_known h.seen hu fun other ho he => h.wellKept.eq_of_email hu ho he
    rw [h.wellKept.find_known hu, hfind]
    exact ⟨.ok user, h.wellKept, h.pooled, hview.trans h.view_eq⟩
  · have hnone : ∀ user ∈ rows.users, user.email ≠ email :=
      fun user hu he => hknown ⟨user, hu, he⟩
    obtain ⟨k', hfind, hview⟩ := hc.find_unknown h.seen hnone
    rw [h.wellKept.find_unknown hnone, hfind]
    exact ⟨.error (Failure.agrees_self rfl), h.wellKept, h.pooled, hview.trans h.view_eq⟩

theorem create (hc : c.Faithful view) (hpool : TellsEmails pool) {user : User}
    (huser : user ∈ pool) :
    SameAnswer (Persistence.memory.create user rows).1 (c.create user k).1 ∧
      Alike pool view (Persistence.memory.create user rows).2 (c.create user k).2 := by
  cases htaken : rows.contains user.email with
  | true =>
    obtain ⟨fault, k', hcreate, hview⟩ :=
      hc.create_colliding h.seen (h.wellKept.contains_iff.mp htaken)
    rw [Persistence.memory_create_of_taken htaken, hcreate]
    refine ⟨.error (Failure.taken_agrees user fault), h.wellKept, h.pooled, ?_⟩
    rcases hview with hview | hview <;> rw [hview, h.view_eq]
    rfl
  | false =>
    have hfree : ∀ other ∈ rows.users, other.email ≠ user.email := by
      intro other ho he
      rw [h.wellKept.contains_iff.mpr ⟨other, ho, he⟩] at htaken
      cases htaken
    obtain ⟨k', hcreate, hview⟩ := hc.create_new h.seen
      (fun other ho hid => hpool user huser other (h.pooled other ho) hid) hfree
    rw [Persistence.memory_create_of_free htaken, hcreate]
    have hroom := Rows.hasRoomFor_singleton.mpr htaken
    have hpooled : ∀ other ∈ rows.users ++ [user], other ∈ pool :=
      List.forall_mem_append.mpr ⟨h.pooled, List.forall_mem_singleton.mpr huser⟩
    refine ⟨.ok user, .extend h.wellKept hroom hpooled ?_⟩
    rw [hview, h.view_eq]
    rfl

theorem single (hc : c.Faithful view) (hpool : TellsEmails pool) {operation : Operation}
    (hop : operation.IsSingle pool) :
    let m := Session.runOne .memory (Session.outside .memory) operation rows () rows
    let t := Session.runOne c.persistence (Session.outside c.persistence) operation k () k
    Step.Agrees (SameUsers view) m.1 t.1 ∧ Alike pool view m.2.2 t.2.2 := by
  cases hop with
  | create huser =>
    obtain ⟨hanswer, halike⟩ := h.create hc hpool huser
    exact ⟨.user hanswer h.same halike.same, halike⟩
  | find email =>
    obtain ⟨hanswer, halike⟩ := h.find hc email
    exact ⟨.user hanswer h.same halike.same, halike⟩

/-! ### Transactions -/

theorem start (hc : c.Faithful view) :
    ∃ k', c.persistence.start k = (.ok (), k') ∧ AlikeWithin pool view rows .empty k' := by
  obtain ⟨k', hstart, hview⟩ := hc.start h.view_eq
  refine ⟨k', Connection.send_of_ok hstart, h.wellKept,
    ⟨List.nodup_nil, fun _ hu => absurd hu List.not_mem_nil⟩, ?_, ?_⟩
  · intro user hu
    rw [show Draft.empty.users = [] from rfl, List.append_nil] at hu
    exact h.pooled user hu
  · rw [hview, show Draft.empty.users = [] from rfl, List.append_nil]

end Alike

/-- What a body has done without a failure is committed in memory and in the table. -/
theorem AlikeWithin.commit (h : AlikeWithin pool view rows draft k) (hc : c.Faithful view) :
    let m := Persistence.memory.commit draft rows
    let t := c.persistence.commit () k
    m.1 = .ok () ∧ t.1 = .ok () ∧ Alike pool view m.2 t.2 := by
  obtain ⟨k', hcommit, hview⟩ := hc.commit h.view_eq
  have hm : Persistence.memory.commit draft rows = (.ok (), rows.extend draft.users) :=
    Persistence.memory_commit_of_ok (Draft.commit_of_room h.room)
  have ht : c.persistence.commit () k = (.ok (), k') := Connection.send_of_ok hcommit
  rw [hm, ht]
  exact ⟨rfl, rfl, .extend h.wellKept h.room h.pooled hview⟩

theorem Alike.rollback {start : κ} (h : Alike pool view rows start) (hc : c.Faithful view)
    (hleaving : Leaving view rows k) : Alike pool view rows (c.persistence.rollback () k) := by
  obtain ⟨k', hrollback, hview⟩ := hc.rollback hleaving.underWay
  have ht : c.persistence.rollback () k = k' :=
    congrArg Prod.snd (Connection.send_of_ok hrollback)
  rw [ht]
  exact ⟨h.wellKept, h.pooled, by rw [hview, hleaving.same]⟩

/-- A body is closed in the same way in memory and in the table. -/
theorem GoesOn.close {failure? failure'? : Option Failure} {start : κ}
    (h : GoesOn pool view rows failure? failure'? draft k) (hstart : Alike pool view rows start)
    (hc : c.Faithful view) {intent : Intent} (hi : intent ≠ .drop) :
    let m := Persistence.memory.close (failure?.elim (Session.ending intent) .failed) draft rows
    let t := c.persistence.close (failure'?.elim (Session.ending intent) .failed) () k
    SameEnding m.1 t.1 ∧ Alike pool view m.2 t.2 := by
  have hback := hstart.rollback hc h.leaving
  rcases h with ⟨rfl, rfl, h⟩ | ⟨failure, failure', rfl, rfl, hagrees, -⟩
  · cases intent with
    | commit =>
      obtain ⟨hm, ht, halike⟩ := h.commit hc
      simp only [Option.elim, Session.ending, Persistence.close]
      generalize Persistence.memory.commit draft rows = m at *
      generalize c.persistence.commit () k = t at *
      obtain ⟨_, rows'⟩ := m
      obtain ⟨_, k'⟩ := t
      subst hm ht
      exact ⟨.returned, halike⟩
    | abort reason => exact ⟨.failed (Failure.agrees_self rfl), hback⟩
    | drop => exact absurd rfl hi
  · exact ⟨.failed hagrees, hback⟩

namespace Alike

variable (h : Alike pool view rows k)

include h

theorem transaction (hc : c.Faithful view) (hpool : TellsEmails pool) {operations : List Operation}
    (hops : ∀ operation ∈ operations, operation.IsSingle pool) {intent : Intent}
    (hi : intent ≠ .drop) :
    let m := Session.runOne .memory (Session.outside .memory)
      (.transaction operations intent true) rows () rows
    let t := Session.runOne c.persistence (Session.outside c.persistence)
      (.transaction operations intent true) k () k
    Step.Agrees (SameUsers view) m.1 t.1 ∧ Alike pool view m.2.2 t.2.2 := by
  obtain ⟨k', hstart, hwithin⟩ := h.start hc
  obtain ⟨hsteps, hleft, hrows, hgoes⟩ := hwithin.body hc hpool hops h.same
  have hclose := hgoes.close h hc hi
  simp only [Session.runOne, Persistence.memory_start, hstart]
  rw [hrows]
  exact ⟨.transaction hsteps hclose.1 hleft hclose.2.same, hclose.2⟩

theorem step (hc : c.Faithful view) (hpool : TellsEmails pool) {operation : Operation}
    (hop : operation.IsPlain pool) :
    let m := Session.runOne .memory (Session.outside .memory) operation rows () rows
    let t := Session.runOne c.persistence (Session.outside c.persistence) operation k () k
    Step.Agrees (SameUsers view) m.1 t.1 ∧ Alike pool view m.2.2 t.2.2 := by
  cases hop with
  | single hop => exact h.single hc hpool hop
  | transaction hops hi => exact h.transaction hc hpool hops hi

theorem run (hc : c.Faithful view) (hpool : TellsEmails pool) {operations : List Operation}
    (hops : ∀ operation ∈ operations, operation.IsPlain pool) :
    let m := Session.run .memory operations rows
    let t := Session.run c.persistence operations k
    List.Forall₂ (Step.Agrees (SameUsers view)) m.1 t.1 ∧ Alike pool view m.2 t.2 := by
  induction operations generalizing rows k with
  | nil => exact ⟨.nil, h⟩
  | cons operation operations ih =>
    obtain ⟨hop, hrest⟩ := List.forall_mem_cons.mp hops
    obtain ⟨hstep, halike⟩ := h.step hc hpool hop
    obtain ⟨hsteps, hend⟩ := ih halike hrest
    rw [Session.run_cons, Session.run_cons]
    exact ⟨.cons hstep hsteps, hend⟩

end Alike

/-! ### Agreement -/

/-- **Memory and a table agree.** A plain session that starts with the same users in memory and in
the table comes to the same step by step, and ends with the same users. -/
theorem memory_agrees_with_table (hc : c.Faithful view) (hpool : TellsEmails pool)
    (h : Alike pool view rows k) {operations : List Operation}
    (hops : ∀ operation ∈ operations, operation.IsPlain pool) :
    let m := Session.run .memory operations rows
    let t := Session.run c.persistence operations k
    List.Forall₂ (Step.Agrees (SameUsers view)) m.1 t.1 ∧
      view t.2 = .settled (rowsOf m.2.users) := by
  obtain ⟨hsteps, hend⟩ := h.run hc hpool hops
  exact ⟨hsteps, hend.view_eq⟩

/-- A transaction fails because an address is taken, and another goes through. -/
theorem memory_agrees_with_list :
    let now : Time.Instant := ⟨0, 0, by decide, by decide, by decide⟩
    let ada : User := ⟨.ofRandom (.replicate 16 0), "ada@example.com", [], "Ada", .active, now⟩
    let bob : User := ⟨.ofRandom (.replicate 16 1), "bob@example.com", [], "Bob", .frozen, now⟩
    let operations : List Operation :=
      [.create ada, .transaction [.create bob, .create ada] .commit true, .find bob.email,
        .transaction [.create bob, .find ada.email] .commit true]
    let m := Session.run .memory operations .empty
    let t := Session.run Storage.connection.persistence operations (.settled [])
    List.Forall₂ (Step.Agrees (SameUsers Storage.view)) m.1 t.1 ∧
      Storage.view t.2 = .settled (rowsOf [ada, bob]) := by
  intro now ada bob operations m t
  have hids : ada.id ≠ bob.id := by decide
  have hpool : TellsEmails {ada, bob} := by
    rintro user (rfl | rfl) other (rfl | rfl) hid
    · rfl
    · exact absurd hid.symm hids
    · exact absurd hid hids
    · rfl
  have hstart : Alike {ada, bob} Storage.view .empty (.settled []) :=
    ⟨Rows.wellKept_empty, fun _ hu => absurd hu List.not_mem_nil, by
      simp [Storage.view, Standing.map, rowsOf, Rows.users, Rows.empty]⟩
  have hada : (Operation.create ada).IsSingle {ada, bob} := .create (.inl rfl)
  have hbob : (Operation.create bob).IsSingle {ada, bob} := .create (.inr rfl)
  have hops : ∀ operation ∈ operations, operation.IsPlain {ada, bob} := by
    simp only [operations, List.forall_mem_cons, List.not_mem_nil, false_imp_iff, implies_true,
      and_true]
    refine ⟨.single hada, .transaction ?_ (by decide), .single (.find _),
      .transaction ?_ (by decide)⟩
    · exact List.forall_mem_cons.mpr ⟨hbob, List.forall_mem_singleton.mpr hada⟩
    · exact List.forall_mem_cons.mpr ⟨hbob, List.forall_mem_singleton.mpr (.find _)⟩
  exact memory_agrees_with_table Storage.faithful hpool hstart hops

end Sql

end UserAccounts
