/-
# What reaches a connection in a session

A session over a scripted connection is a conversation: statements, each with the
answer that the script gave it, and between them what begins and ends transactions.
`Conducted` says which conversation belongs to an operation. Creating a user is one
insertion and finding one is one selection, within a transaction or outside. A
transaction is a start, then the conversations of the operations in its body, then
the one control that goes with how the body ended (`Control.ofEnding`): it commits
a body that returned, rolls back one that failed, and drops one that was dropped. A
strict body stops behind the first operation that failed, and fails as this did.

Every session is conducted so, whatever the script answers (`session_conducted`):
its log is well bracketed, and the script's answers go to the statements in order,
one each. The induction is on the operations; `Took` carries along what the script
has given away and written down.

Key definitions: `Exchange`, `Conducted`, `ConductedAll`, `Bracketed`, `Took`.
Key theorems: `Took.append`, `Conducted.bracketed`, `session_conducted`.
-/
import Mathlib.Data.List.Range
import UserAccounts.Sql.Connection

namespace UserAccounts.Sql

/-- Something that reached a script; with a statement, the answer it was given, if one was left. -/
inductive Exchange where
  | control (control : Control)
  | statement (statement : Statement) (answer : Option Answer)

def Exchange.event : Exchange → Event
  | .control c => .control c
  | .statement s _ => .statement s

def Exchange.answer? : Exchange → Option (Option Answer)
  | .control _ => none
  | .statement _ answer => some answer

/-- The first row of an answer to a statement; there is none if no answer was left. -/
def Statement.firstRow (statement : Statement) :
    Option Answer → Except Database.Fault (Option Row)
  | none => .ok none
  | some answer => answer.firstRow statement

/-- What creating a user comes to, given the answer to the insertion. -/
def created (user : User) (answer : Option Answer) : Except Failure User :=
  match (Statement.insert (.ofUser user)).firstRow answer with
  | .error fault => .error (.database fault)
  | .ok none => .error (.database Connection.insertedMissing)
  | .ok (some row) => row.toUser

/-- What finding a user comes to, given the answer to the selection. -/
def found (email : String) (answer : Option Answer) : Except Failure User :=
  match (Statement.selectByEmail email).firstRow answer with
  | .error fault => .error (.database fault)
  | .ok none => .error .notFound
  | .ok (some row) => row.toUser

/-- What ends a transaction whose body ended so. -/
def Control.ofEnding : Ending Unit → Control
  | .returned () => .commit
  | .failed _ => .rollback
  | .dropped => .drop

/-! ### Conversations -/

mutual

/-- The conversation of one operation, and the step it came to. -/
inductive Conducted : Operation → Step Script → List Exchange → Prop where
  | create (user : User) (answer : Option Answer) (before after : Script) :
    Conducted (.create user) (.user (created user answer) before after)
      [.statement (.insert (.ofUser user)) answer]
  | find (email : String) (answer : Option Answer) (before after : Script) :
    Conducted (.find email) (.user (found email answer) before after)
      [.statement (.selectByEmail email) answer]
  | createOutside (user : User) (answer : Option Answer) (before after : Script) :
    Conducted (.createOutside user) (.user (created user answer) before after)
      [.statement (.insert (.ofUser user)) answer]
  | findOutside (email : String) (answer : Option Answer) (before after : Script) :
    Conducted (.findOutside email) (.user (found email answer) before after)
      [.statement (.selectByEmail email) answer]
  | look (before after : Script) : Conducted .look (.look before after) []
  | transaction {operations : List Operation} {strict : Bool} {steps : List (Step Script)}
      {exchanges : List Exchange} {ending : Ending Unit} (intent : Intent)
      (before after : Script) (body : ConductedAll strict (Session.ending intent) operations steps
        exchanges ending) :
    Conducted (.transaction operations intent strict) (.transaction steps ending before after)
      (.control .start :: (exchanges ++ [.control (.ofEnding ending)]))

/-- The conversation of operations one after another, their steps, and how a body that consists of
them ends: if none ends it before, with `last`. -/
inductive ConductedAll : (strict : Bool) → (last : Ending Unit) → List Operation →
    List (Step Script) → List Exchange → Ending Unit → Prop where
  | nil (strict : Bool) (last : Ending Unit) : ConductedAll strict last [] [] [] last
  /-- An operation has failed, which ends a strict body. -/
  | failed {operation : Operation} {step : Step Script} {exchanges : List Exchange}
      {failure : Failure} (last : Ending Unit) (operations : List Operation)
      (first : Conducted operation step exchanges) (h : step.failure? = some failure) :
    ConductedAll true last (operation :: operations) [step] exchanges (.failed failure)
  | cons {strict : Bool} {last ending : Ending Unit} {operation : Operation}
      {operations : List Operation} {step : Step Script} {steps : List (Step Script)}
      {exchanges more : List Exchange} (first : Conducted operation step exchanges)
      (h : strict = true → step.failure? = none)
      (rest : ConductedAll strict last operations steps more ending) :
    ConductedAll strict last (operation :: operations) (step :: steps) (exchanges ++ more) ending

end

/-! ### Brackets -/

/-- Statements, and transactions each of which is started once and ended once, one inside another
or one after another. -/
inductive Bracketed : List Event → Prop where
  | nil : Bracketed []
  | statement {events : List Event} (statement : Statement) (h : Bracketed events) :
    Bracketed (.statement statement :: events)
  | transaction {body events : List Event} {control : Control} (hbody : Bracketed body)
      (hend : control ≠ .start) (h : Bracketed events) :
    Bracketed (.control .start :: (body ++ .control control :: events))

theorem Bracketed.append {events more : List Event} (h : Bracketed events)
    (hmore : Bracketed more) : Bracketed (events ++ more) := by
  induction h with
  | nil => exact hmore
  | statement statement _ ih => exact .statement statement ih
  | transaction hbody hend _ _ ih =>
    rw [List.cons_append, List.append_assoc, List.cons_append]
    exact .transaction hbody hend ih

theorem Control.ofEnding_ne_start (ending : Ending Unit) : Control.ofEnding ending ≠ .start := by
  cases ending <;> simp [Control.ofEnding]

mutual

theorem Conducted.bracketed {operation : Operation} {step : Step Script}
    {exchanges : List Exchange} :
    Conducted operation step exchanges → Bracketed (exchanges.map Exchange.event)
  | .create user _ _ _ => .statement (.insert (.ofUser user)) .nil
  | .find email _ _ _ => .statement (.selectByEmail email) .nil
  | .createOutside user _ _ _ => .statement (.insert (.ofUser user)) .nil
  | .findOutside email _ _ _ => .statement (.selectByEmail email) .nil
  | .look _ _ => .nil
  | .transaction _ _ _ body => by
    rw [List.map_cons, List.map_append]
    exact .transaction body.bracketed (Control.ofEnding_ne_start _) .nil

theorem ConductedAll.bracketed {strict : Bool} {last ending : Ending Unit}
    {operations : List Operation} {steps : List (Step Script)} {exchanges : List Exchange} :
    ConductedAll strict last operations steps exchanges ending →
      Bracketed (exchanges.map Exchange.event)
  | .nil _ _ => .nil
  | .failed _ _ first _ => first.bracketed
  | .cons first _ rest => by
    rw [List.map_append]
    exact first.bracketed.append rest.bracketed

end

/-! ### What a script gives away -/

/-- From one script to the other these exchanges took place: the log holds them, and the answers
have gone to the statements in order, one each. -/
structure Took (s : Script) (exchanges : List Exchange) (s' : Script) : Prop where
  log : s'.log = s.log ++ exchanges.map Exchange.event
  given : exchanges.filterMap Exchange.answer? =
    (List.range (exchanges.filterMap Exchange.answer?).length).map fun i => s.answers[i]?
  left : s'.answers = s.answers.drop (exchanges.filterMap Exchange.answer?).length

variable {s s' s'' : Script} {exchanges more : List Exchange}

theorem Took.nil (s : Script) : Took s [] s :=
  ⟨(List.append_nil _).symm, rfl, rfl⟩

theorem Took.append (h : Took s exchanges s') (h' : Took s' more s'') :
    Took s (exchanges ++ more) s'' := by
  refine ⟨?_, ?_, ?_⟩
  · rw [h'.log, h.log, List.map_append, List.append_assoc]
  · -- The answers that are left begin behind those that have been given.
    have hsecond : more.filterMap Exchange.answer? =
        (List.range (more.filterMap Exchange.answer?).length).map fun i =>
          s.answers[(exchanges.filterMap Exchange.answer?).length + i]? := by
      have hgiven := h'.given
      simp only [h.left, List.getElem?_drop] at hgiven
      exact hgiven
    rw [List.filterMap_append, List.length_append, List.range_add, List.map_append, List.map_map]
    exact congrArg₂ (· ++ ·) h.given hsecond
  · rw [h'.left, h.left, List.drop_drop, List.filterMap_append, List.length_append]

/-- What begins or ends a transaction takes no answer. -/
theorem took_control (s : Script) (control : Control) :
    Took s [.control control] (Script.connection.control control s).2 :=
  ⟨rfl, rfl, rfl⟩

theorem took_statement (s : Script) (statement : Statement) :
    (Script.connection.query statement s).1 = statement.firstRow s.answers.head? ∧
      Took s [.statement statement s.answers.head?] (Script.connection.query statement s).2 := by
  obtain ⟨answers, log⟩ := s
  cases answers with
  | nil => exact ⟨rfl, rfl, rfl, rfl⟩
  | cons answer answers => exact ⟨rfl, rfl, rfl, rfl⟩

theorem took_create (s : Script) (user : User) :
    (Script.connection.create user s).1 = created user s.answers.head? ∧
      Took s [.statement (.insert (.ofUser user)) s.answers.head?]
        (Script.connection.create user s).2 := by
  obtain ⟨hrow, htook⟩ := took_statement s (.insert (.ofUser user))
  unfold Connection.create created
  rw [← hrow]
  generalize Script.connection.query (.insert (.ofUser user)) s = r at htook
  obtain ⟨_ | _ | row, k⟩ := r
  · exact ⟨rfl, htook⟩
  · exact ⟨rfl, htook⟩
  · exact ⟨rfl, htook⟩

theorem took_find (s : Script) (email : String) :
    (Script.connection.find email s).1 = found email s.answers.head? ∧
      Took s [.statement (.selectByEmail email) s.answers.head?]
        (Script.connection.find email s).2 := by
  obtain ⟨hrow, htook⟩ := took_statement s (.selectByEmail email)
  unfold Connection.find found
  rw [← hrow]
  generalize Script.connection.query (.selectByEmail email) s = r at htook
  obtain ⟨_ | _ | row, k⟩ := r
  · exact ⟨rfl, htook⟩
  · exact ⟨rfl, htook⟩
  · exact ⟨rfl, htook⟩

theorem took_close (s : Script) (ending : Ending Unit) :
    (Script.connection.persistence.close ending () s).1 = ending ∧
      Took s [.control (.ofEnding ending)] (Script.connection.persistence.close ending () s).2 := by
  cases ending with
  | returned => exact ⟨rfl, took_control s .commit⟩
  | failed failure => exact ⟨rfl, took_control s .rollback⟩
  | dropped => exact ⟨rfl, took_control s .drop⟩

/-! ### Sessions -/

/-- Over a connection it makes no difference to an operation whether it is done within a
transaction. -/
theorem outside_eq_inside {κ : Type} (c : Connection κ) :
    Session.outside c.persistence = Session.inside c.persistence := rfl

mutual

theorem exists_conducted : ∀ (operation : Operation) (before s : Script),
    let r := Session.runOne Script.connection.persistence
      (Session.inside Script.connection.persistence) operation before () s
    ∃ exchanges, Conducted operation r.1 exchanges ∧ Took s exchanges r.2.2
  | .create user, before, s => by
    obtain ⟨hresult, htook⟩ := took_create s user
    refine ⟨_, ?_, htook⟩
    have hstep := Conducted.create user s.answers.head? before (Script.connection.create user s).2
    rw [← hresult] at hstep
    exact hstep
  | .find email, before, s => by
    obtain ⟨hresult, htook⟩ := took_find s email
    refine ⟨_, ?_, htook⟩
    have hstep := Conducted.find email s.answers.head? before (Script.connection.find email s).2
    rw [← hresult] at hstep
    exact hstep
  | .createOutside user, before, s => by
    obtain ⟨hresult, htook⟩ := took_create s user
    refine ⟨_, ?_, htook⟩
    have hstep :=
      Conducted.createOutside user s.answers.head? before (Script.connection.create user s).2
    rw [← hresult] at hstep
    exact hstep
  | .findOutside email, before, s => by
    obtain ⟨hresult, htook⟩ := took_find s email
    refine ⟨_, ?_, htook⟩
    have hstep :=
      Conducted.findOutside email s.answers.head? before (Script.connection.find email s).2
    rw [← hresult] at hstep
    exact hstep
  | .look, before, s => ⟨[], .look before s, .nil s⟩
  | .transaction operations intent strict, before, s => by
    obtain ⟨exchanges, hbody, htook⟩ := exists_conductedAll operations strict
      (Session.ending intent) before (Script.connection.control .start s).2
    have hrun : Session.runOne Script.connection.persistence
        (Session.inside Script.connection.persistence) (.transaction operations intent strict)
        before () s =
          let r := Session.runAll Script.connection.persistence
            (Session.inside Script.connection.persistence) operations strict before ()
            (Script.connection.control .start s).2
          let c := Script.connection.persistence.close
            (r.2.1.elim (Session.ending intent) .failed) () r.2.2.2.2
          (.transaction r.1 c.1 r.2.2.1 c.2, (), c.2) := rfl
    rw [hrun]
    generalize Session.runAll Script.connection.persistence
      (Session.inside Script.connection.persistence) operations strict before ()
      (Script.connection.control .start s).2 = r at hbody htook
    obtain ⟨hresult, hclose⟩ :=
      took_close r.2.2.2.2 (r.2.1.elim (Session.ending intent) .failed)
    refine ⟨_, ?_, ((took_control s .start).append htook).append hclose⟩
    simp only [hresult]
    exact .transaction intent _ _ hbody

theorem exists_conductedAll : ∀ (operations : List Operation) (strict : Bool)
    (last : Ending Unit) (before s : Script),
    let r := Session.runAll Script.connection.persistence
      (Session.inside Script.connection.persistence) operations strict before () s
    ∃ exchanges, ConductedAll strict last operations r.1 exchanges (r.2.1.elim last .failed) ∧
      Took s exchanges r.2.2.2.2
  | [], strict, last, before, s => ⟨[], .nil strict last, .nil s⟩
  | operation :: operations, strict, last, before, s => by
    obtain ⟨exchanges, hfirst, htook⟩ := exists_conducted operation before s
    simp only [Session.runAll]
    generalize Session.runOne Script.connection.persistence
      (Session.inside Script.connection.persistence) operation before () s = r at hfirst htook
    obtain ⟨step, ⟨⟩, k⟩ := r
    split
    · rename_i failure hfailure
      exact ⟨exchanges, .failed last operations hfirst hfailure, htook⟩
    · rename_i hgoes
      obtain ⟨more, hrest, htook'⟩ := exists_conductedAll operations _ last k k
      refine ⟨exchanges ++ more, .cons hfirst ?_ hrest, htook.append htook'⟩
      intro hstrict
      cases hf : step.failure? with
      | none => rfl
      | some failure => exact absurd hstrict (hgoes failure hf)

end

/-- Operations that nothing ends before the last are all done. -/
theorem ConductedAll.ending_eq {last ending : Ending Unit} {operations : List Operation}
    {steps : List (Step Script)} {exchanges : List Exchange} :
    ConductedAll false last operations steps exchanges ending → ending = last
  | .nil _ _ => rfl
  | .cons _ _ rest => rest.ending_eq

/-- **Every session over a connection is a well bracketed conversation**, whatever its operations
and whatever the answers. Each operation sends what belongs to it and nothing else, the answers go
to the statements in order, and a statement carries the fields of the user, or the address. -/
theorem session_conducted (operations : List Operation) (script : Script) :
    let r := Session.run Script.connection.persistence operations script
    (∃ exchanges, ConductedAll false (.returned ()) operations r.1 exchanges (.returned ()) ∧
      Took script exchanges r.2 ∧ Bracketed (exchanges.map Exchange.event)) ∧
    (∀ user : User, (Statement.insert (.ofUser user)).values =
      [.id user.id, .text user.email, .bytes user.passwordHash, .text user.name,
        .text user.status.code, .instant user.createdAt]) ∧
    ∀ email, (Statement.selectByEmail email).values = [.text email, .integer 1] := by
  refine ⟨?_, fun _ => rfl, fun _ => rfl⟩
  obtain ⟨exchanges, hall, htook⟩ :=
    exists_conductedAll operations false (.returned ()) script script
  rw [← outside_eq_inside] at hall htook
  rw [hall.ending_eq] at hall
  exact ⟨exchanges, hall, htook, hall.bracketed⟩

end UserAccounts.Sql
