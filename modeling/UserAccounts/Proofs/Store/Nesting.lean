/-
# Sessions are runs of calls

A session does its operations one after another, and a transaction inside another
is done to its end before the outer one goes on. That is one of the orders in which
calls can come in: every session is a run of calls that are given the same answers
and leave the same rows (`exists_calls`). So whatever holds after every run of
calls holds after every session, however deep its transactions are nested.

Transactions are numbered as they start. Where an operation is done, outside
transactions (`none`) or in the transaction `t` (`some t`), decides what it sees and
which call it makes. The induction is on the operations; what it carries along is
`Performs`: the calls leave alone the transactions that are under way elsewhere,
and there are numbers left for more.

Key definitions: `UserAccounts.Step.replies`, `Place.Has`, `Performs`.
Key theorems: `Performs.append`, `exists_calls`.
-/
import UserAccounts.Proofs.Store.Calls
import UserAccounts.Store.Session

namespace UserAccounts

mutual

/-- The answers to the calls that an operation makes. -/
def Step.replies {σ : Type} : Step σ → List Reply
  | .user result _ _ => [.user result]
  | .look _ _ => []
  | .transaction steps result _ _ => .started :: (Step.allReplies steps ++ [.ended result])

/-- The answers to the calls that operations make one after another. -/
def Step.allReplies {σ : Type} : List (Step σ) → List Reply
  | [] => []
  | step :: steps => step.replies ++ Step.allReplies steps

end

/-- Where an operation is done: outside transactions, or in one of them. -/
abbrev Place := Option Nat

namespace Place

abbrev Seen : Place → Type
  | none => Unit
  | some _ => Draft

/-- How the rows are seen from a place. -/
def view : (place : Place) → Session.View Rows place.Seen
  | none => Session.outside .memory
  | some _ => Session.inside .memory

def create : Place → User → Call Nat
  | none, user => .create user
  | some t, user => .createIn t user

def find : Place → String → Call Nat
  | none, email => .find email
  | some t, email => .findIn t email

/-- What is seen at the place is so in this situation. -/
def Has (s : Situation Nat Rows Draft) : (place : Place) → place.Seen → Prop
  | none, () => True
  | some t, draft => s.phase t = .underWay draft

end Place

/-- The calls are given these answers, and leave these rows, and this to be seen at the place. They
start transactions with numbers from `n` on and below `m`, and leave alone all others elsewhere. -/
structure Performs (place : Place) (n m : Nat) (s : Situation Nat Rows Draft)
    (calls : List (Call Nat)) (replies : List Reply) (seen : place.Seen) (kept : Rows) : Prop where
  replies : (s.run .memory calls).1.map (·.2) = replies
  kept : (s.run .memory calls).2.kept = kept
  has : place.Has (s.run .memory calls).2 seen
  others : ∀ t < n, place ≠ some t → (s.run .memory calls).2.phase t = s.phase t
  le : n ≤ m
  ahead : ∀ t, m ≤ t → (s.run .memory calls).2.phase t = .ahead

variable {place : Place} {n m : Nat} {s s' : Situation Nat Rows Draft} {seen : place.Seen}

theorem Situation.run_append {ι σ δ : Type} [DecidableEq ι] (p : Persistence σ δ) :
    ∀ (calls more : List (Call ι)) (s : Situation ι σ δ),
      s.run p (calls ++ more) =
        ((s.run p calls).1 ++ ((s.run p calls).2.run p more).1, ((s.run p calls).2.run p more).2)
  | [], _, _ => rfl
  | call :: calls, more, s => by
    rw [List.cons_append, run_cons, run_append p calls more, run_cons]
    rfl

theorem Performs.nil (h : place.Has s seen) (ha : ∀ t, n ≤ t → s.phase t = .ahead) :
    Performs place n n s [] [] seen s.kept :=
  ⟨rfl, rfl, h, fun _ _ _ => rfl, Nat.le_refl n, ha⟩

theorem Performs.append {calls more : List (Call Nat)} {replies replies' : List Reply} {k : Nat}
    {seen seen' : place.Seen} {kept kept' : Rows}
    (h : Performs place n m s calls replies seen kept)
    (h' : Performs place m k (s.run .memory calls).2 more replies' seen' kept') :
    Performs place n k s (calls ++ more) (replies ++ replies') seen' kept' := by
  have hm := h.le
  have hk := h'.le
  refine ⟨?_, ?_, ?_, fun t ht hne => ?_, by omega, ?_⟩
  · rw [Situation.run_append, List.map_append, h.replies, h'.replies]
  · rw [Situation.run_append]
    exact h'.kept
  · rw [Situation.run_append]
    exact h'.has
  · rw [Situation.run_append]
    rw [h'.others t (by omega) hne, h.others t ht hne]
  · rw [Situation.run_append]
    exact h'.ahead

/-! ### Single calls -/

theorem Place.Has.of_phase (h : place.Has s seen) (hp : s'.phase = s.phase) :
    place.Has s' seen := by
  cases place with
  | none => trivial
  | some t =>
    show s'.phase t = _
    rw [hp]
    exact h

theorem Performs.one {call : Call Nat} {reply : Reply} (hc : s.answer .memory call = (reply, s'))
    (h : place.Has s' seen) (hp : ∀ t, place ≠ some t → s'.phase t = s.phase t)
    (hn : ∀ t, place = some t → t < n) (ha : ∀ t, n ≤ t → s.phase t = .ahead) :
    Performs place n n s [call] [reply] seen s'.kept := by
  have hrun : s.run .memory [call] = ([(call, reply)], s') := by
    rw [Situation.run_cons, hc]
    rfl
  constructor
  · rw [hrun]
    rfl
  · rw [hrun]
  · rw [hrun]
    exact h
  · intro t _ hne
    rw [hrun]
    exact hp t hne
  · exact Nat.le_refl n
  · intro t ht
    have hne : place ≠ some t := by
      intro he
      have := hn t he
      omega
    rw [hrun, hp t hne]
    exact ha t ht

section

variable (h : place.Has s seen) (hn : ∀ t, place = some t → t < n)
  (ha : ∀ t, n ≤ t → s.phase t = .ahead)

include h hn ha

theorem performs_create (user : User) :
    let r := place.view.create user seen s.kept
    Performs place n n s [place.create user] [.user r.1] r.2.1 r.2.2 := by
  cases place with
  | none => exact .one rfl trivial (fun _ _ => rfl) hn ha
  | some t =>
    have hphase : s.phase t = .underWay seen := h
    have hanswer : s.answer .memory (.createIn t user) =
        (.user (Persistence.memory.createIn user seen s.kept).1,
          s.set t (.underWay (Persistence.memory.createIn user seen s.kept).2.1)
            (Persistence.memory.createIn user seen s.kept).2.2) := by
      simp only [Situation.answer, Situation.within, hphase]
    refine .one hanswer (Situation.set_phase_self ..) (fun u hne => ?_) hn ha
    exact Situation.set_phase_of_ne (fun he => hne (congrArg some he.symm)) ..

theorem performs_find (email : String) :
    let r := place.view.find email seen s.kept
    Performs place n n s [place.find email] [.user r.1] r.2.1 r.2.2 := by
  cases place with
  | none => exact .one rfl trivial (fun _ _ => rfl) hn ha
  | some t =>
    have hphase : s.phase t = .underWay seen := h
    have hanswer : s.answer .memory (.findIn t email) = (.user (seen.find s.kept email), s) := by
      simp only [Situation.answer, Situation.within, hphase, Persistence.memory,
        Situation.set_eq_self hphase]
    exact .one hanswer hphase (fun _ _ => rfl) hn ha

theorem performs_createOutside (user : User) :
    let r := Persistence.memory.create user s.kept
    Performs place n n s [.create user] [.user r.1] seen r.2 :=
  .one rfl (h.of_phase rfl) (fun _ _ => rfl) hn ha

theorem performs_findOutside (email : String) :
    let r := Persistence.memory.find email s.kept
    Performs place n n s [.find email] [.user r.1] seen r.2 :=
  .one rfl (h.of_phase rfl) (fun _ _ => rfl) hn ha

/-- A transaction, given what the calls within it perform. -/
theorem performs_transaction {calls : List (Call Nat)} {replies : List Reply} {draft : Draft}
    {kept : Rows} (ending : Ending Unit)
    (hbody : Performs (some n) (n + 1) m (s.set n (.underWay .empty) s.kept) calls replies draft
      kept) :
    let r := Persistence.memory.close ending draft kept
    Performs place n m s (.start n :: (calls ++ [.finish n ending]))
      (.started :: (replies ++ [.ended r.1])) seen r.2 := by
  intro r
  have hstart : s.answer .memory (.start n) = (.started, s.set n (.underWay .empty) s.kept) := by
    simp only [Situation.answer, ha n (Nat.le_refl n), Persistence.memory_start]
  have hrun : s.run .memory (.start n :: (calls ++ [.finish n ending])) =
      ((.start n, .started) ::
          (((s.set n (.underWay .empty) s.kept).run .memory calls).1 ++
            [(.finish n ending, .ended r.1)]),
        ((s.set n (.underWay .empty) s.kept).run .memory calls).2.set n .ended r.2) := by
    rw [Situation.run_cons, hstart, Situation.run_append, Situation.run_cons]
    have hphase : ((s.set n (.underWay .empty) s.kept).run .memory calls).2.phase n =
        .underWay draft := hbody.has
    simp only [Situation.answer, Situation.within, hphase, hbody.kept]
    rfl
  have hothers : ∀ t < n, (s.run .memory (.start n :: (calls ++ [.finish n ending]))).2.phase t =
      s.phase t := by
    intro t ht
    have hne : t ≠ n := by omega
    have hsame := hbody.others t (by omega) fun he => hne (Option.some.inj he).symm
    rw [hrun, Situation.set_phase_of_ne hne, hsame, Situation.set_phase_of_ne hne]
  have hle := hbody.le
  constructor
  · rw [hrun, List.map_cons, List.map_append, hbody.replies]
    rfl
  · rw [hrun]
    rfl
  · cases place with
    | none => trivial
    | some t => exact (hothers t (hn t rfl)).trans h
  · exact fun t ht _ => hothers t ht
  · omega
  · intro t ht
    have hne : t ≠ n := by omega
    rw [hrun, Situation.set_phase_of_ne hne]
    exact hbody.ahead t ht

end

/-! ### Sessions -/

mutual

theorem exists_calls_of_one : ∀ (operation : Operation) {place : Place} {n : Nat}
    {s : Situation Nat Rows Draft} {seen : place.Seen}, place.Has s seen →
    (∀ t, place = some t → t < n) → (∀ t, n ≤ t → s.phase t = .ahead) → ∀ before,
      let r := Session.runOne .memory place.view operation before seen s.kept
      ∃ calls m, Performs place n m s calls r.1.replies r.2.1 r.2.2
  | .create user, place, n, s, seen, h, hn, ha, before =>
    ⟨_, n, performs_create h hn ha user⟩
  | .find email, place, n, s, seen, h, hn, ha, before =>
    ⟨_, n, performs_find h hn ha email⟩
  | .createOutside user, place, n, s, seen, h, hn, ha, before =>
    ⟨_, n, performs_createOutside h hn ha user⟩
  | .findOutside email, place, n, s, seen, h, hn, ha, before =>
    ⟨_, n, performs_findOutside h hn ha email⟩
  | .look, place, n, s, seen, h, hn, ha, before => ⟨[], n, .nil h ha⟩
  | .transaction operations intent strict, place, n, s, seen, h, hn, ha, before => by
    have hinside : Place.Has (s.set n (.underWay .empty) s.kept) (some n) Draft.empty :=
      Situation.set_phase_self ..
    have hbelow : ∀ t, some n = some t → t < n + 1 := by
      rintro t ⟨⟩
      omega
    have hahead : ∀ t, n + 1 ≤ t → (s.set n (.underWay .empty) s.kept).phase t = .ahead := by
      intro t ht
      rw [Situation.set_phase_of_ne (by omega)]
      exact ha t (by omega)
    obtain ⟨calls, m, hbody⟩ := exists_calls_of_all operations hinside hbelow hahead strict before
    exact ⟨_, m, performs_transaction h hn ha _ hbody⟩

theorem exists_calls_of_all : ∀ (operations : List Operation) {place : Place} {n : Nat}
    {s : Situation Nat Rows Draft} {seen : place.Seen}, place.Has s seen →
    (∀ t, place = some t → t < n) → (∀ t, n ≤ t → s.phase t = .ahead) → ∀ strict before,
      let r := Session.runAll .memory place.view operations strict before seen s.kept
      ∃ calls m, Performs place n m s calls (Step.allReplies r.1) r.2.2.2.1 r.2.2.2.2
  | [], place, n, s, seen, h, hn, ha, strict, before => ⟨[], n, .nil h ha⟩
  | operation :: operations, place, n, s, seen, h, hn, ha, strict, before => by
    obtain ⟨calls, m, hfirst⟩ := exists_calls_of_one operation h hn ha before
    simp only [Session.runAll]
    generalize Session.runOne .memory place.view operation before seen s.kept = r at hfirst
    obtain ⟨step, seen', kept⟩ := r
    split
    · -- The operation has failed, and the transaction ends with it.
      refine ⟨calls, m, ?_⟩
      rw [Step.allReplies, Step.allReplies, List.append_nil]
      exact hfirst
    · have hbelow : ∀ t, place = some t → t < m := by
        intro t ht
        have h1 := hn t ht
        have h2 := hfirst.le
        omega
      obtain ⟨more, k, hrest⟩ :=
        exists_calls_of_all operations hfirst.has hbelow hfirst.ahead _ kept
      rw [hfirst.kept] at hrest
      exact ⟨calls ++ more, k, hfirst.append hrest⟩

end

/-- **Every session is a run of calls**, however deep its transactions are nested: the calls are
given the same answers, and leave the same rows. -/
theorem exists_calls (operations : List Operation) (rows : Rows) :
    ∃ calls : List (Call Nat),
      let r := (Situation.initial rows).run .memory calls
      r.1.map (·.2) = Step.allReplies (Session.run .memory operations rows).1 ∧
        r.2.kept = (Session.run .memory operations rows).2 := by
  have hoff : Place.Has (Situation.initial rows) none () := trivial
  obtain ⟨calls, _, h⟩ := exists_calls_of_all operations hoff (fun _ he => by cases he)
    (fun _ (_ : 0 ≤ _) => rfl) false rows
  exact ⟨calls, h.replies, h.kept⟩

end UserAccounts
