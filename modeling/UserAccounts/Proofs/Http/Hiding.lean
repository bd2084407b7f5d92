/-
# What answers keep to themselves

Two runs differ in nothing but the words of what fails inside: in keeping users, in
hashing, in issuing tokens, or in a database that is asked how it is. Then the same
requests are answered by the same statuses, and all answers are the same but one: who
asks how the service is, while the database does not answer, is told the words of its
fault. There the answers are the same exactly if the words are (`told_only_of_health`).

What signing up and logging in come to differs in words only; of those nothing is told
(`failureResponse_same`). The words of a fault are written into the answer on the
health of the service, and can be read from it (`healthResponse_eq_iff`).

Key definitions: `Health.words?`, `Moment.SameButWords`, `Site.SameButWords`,
`Request.AsksForHealth`, `Exchange.SameButHealth`.
Key theorems: `failureResponse_same`, `healthResponse_eq_iff`, `respond_same`,
`told_only_of_health`, `ping_words_told`.
-/
import UserAccounts.Proofs.Http.Failures
import UserAccounts.Proofs.Json.Record
import UserAccounts.Proofs.Service.Words

namespace UserAccounts

namespace Json

theorem writeString_inj {s t : String} : writeString s = writeString t ↔ s = t := by
  constructor
  · intro h
    obtain ⟨_, hs⟩ := readText_written "a string" s [] .start
    obtain ⟨_, ht⟩ := readText_written "a string" t [] .start
    rw [h] at hs
    have hread := Except.ok.inj (hs.symm.trans ht)
    exact congrArg Prod.fst hread
  · rintro rfl
    rfl

end Json

/-! ### Asking a database how it is -/

namespace Database

/-- Two databases that differ in the words in which they refuse statements. -/
structure Server.SameButWords (server server' : Server) : Prop where
  contents : server.contents = server'.contents
  refusals : List.Forall₂ (fun r r' => r.part = r'.part) server.refusals server'.refusals

theorem find_refusal_same {refusals refusals' : List Refusal}
    (h : List.Forall₂ (fun r r' => r.part = r'.part) refusals refusals') (statement : String) :
    let refused (r : Refusal) : Bool := occursIn r.part.toList statement.toList
    (refusals.find? refused).isSome = (refusals'.find? refused).isSome := by
  intro refused
  induction h with
  | nil => rfl
  | @cons refusal refusal' _ _ hpart _ ih =>
    have hsame : refused refusal = refused refusal' := by
      simp only [refused, hpart]
    rw [List.find?_cons, List.find?_cons, hsame]
    cases refused refusal' with
    | true => rfl
    | false => exact ih

theorem Server.SameButWords.probe {server server' : Server} (h : server.SameButWords server') :
    SameResult (fun _ _ => True) Eq server.probe server'.probe := by
  have hrefused := find_refusal_same h.refusals Command.probe.text
  unfold Server.probe Server.send
  simp only at hrefused ⊢
  generalize server.refusals.find? _ = refusal? at hrefused ⊢
  generalize server'.refusals.find? _ = refusal?' at hrefused ⊢
  cases refusal? with
  | none =>
    obtain rfl := Option.isNone_iff_eq_none.mp (by simpa using hrefused.symm)
    exact .ok rfl
  | some refusal =>
    obtain ⟨refusal', rfl⟩ := Option.isSome_iff_exists.mp hrefused.symm
    exact .error trivial

end Database

namespace Http

/-! ### Asking how the service is -/

/-- The words of the fault, if the database does not answer. -/
def Health.words? : Health → Option String
  | .inMemory | .healthy => none
  | .unhealthy fault => some fault.message

/-- The database is the same on both sides, or answers on neither. -/
inductive Health.SameButWords : Health → Health → Prop where
  | same (health : Health) : SameButWords health health
  | unhealthy (fault other : Database.Fault) : SameButWords (.unhealthy fault) (.unhealthy other)

theorem Health.SameButWords.ofServer {server server' : Database.Server}
    (h : server.SameButWords server') :
    (Health.ofServer (some server)).SameButWords (.ofServer (some server')) := by
  have hprobe := h.probe
  unfold Health.ofServer
  simp only
  generalize server.probe = answer at hprobe
  generalize server'.probe = answer' at hprobe
  cases hprobe with
  | ok => exact .same .healthy
  | error => exact .unhealthy _ _

theorem Health.ofServer_refused {part : String}
    (hpart : Database.occursIn part.toList Database.Command.probe.text.toList = true)
    (words : String) :
    Health.ofServer (some { refusals := [⟨part, words⟩] }) =
      .unhealthy (Database.Command.probe.fault words) := by
  unfold Health.ofServer Database.Server.probe Database.Server.send
  simp only [List.find?_cons, hpart]
  rfl

/-- Who asks with `GET` how the service is. -/
structure Request.AsksForHealth (r : Request) : Prop where
  path : r.path = "/health"
  method : r.method = "GET"

theorem Request.AsksForHealth.asks {r : Request} (h : r.AsksForHealth) : r.Asks .health :=
  ⟨Route.ofPath?_eq_some_iff.mpr h.path, by simp [h.method, Route.methods]⟩

theorem Request.Asks.not_health {r : Request} {route : Route} (h : r.Asks route)
    (hroute : route ≠ .health) : ¬ r.AsksForHealth :=
  fun hask => hroute (h.unique hask.asks)

theorem Request.Asks.health_method {r : Request} (h : r.Asks .health) :
    r.method = "GET" ∨ r.method = "HEAD" := by
  simpa [Route.methods] using h.method

section

variable {health other : Health}

/-- What is answered while the database does not answer: the words stand in it as a string. -/
theorem unhealthy_body (fault : Database.Fault) :
    (healthResponse (.unhealthy fault)).body = String.ofList
      (("\x7b\"status\":\"degraded\",\"database\":\x7b" ++
          "\"status\":\"unhealthy\",\"error\":").toList ++
        (Json.writeString fault.message ++ ['\x7d'] ++ ['\x7d'])) := by
  rfl

theorem unhealthy_body_inj {fault fault' : Database.Fault} :
    (healthResponse (.unhealthy fault)).body = (healthResponse (.unhealthy fault')).body ↔
      fault.message = fault'.message := by
  rw [unhealthy_body, unhealthy_body, String.ofList_inj, List.append_cancel_left_eq,
    List.append_cancel_right_eq, List.append_cancel_right_eq]
  exact Json.writeString_inj

theorem healthResponse_eq_iff (h : health.SameButWords other) :
    healthResponse health = healthResponse other ↔ health.words? = other.words? := by
  cases h with
  | same => exact ⟨fun _ => rfl, fun _ => rfl⟩
  | unhealthy fault fault' =>
    constructor
    · intro he
      exact congrArg some (unhealthy_body_inj.mp (congrArg Response.body he))
    · intro he
      simp only [healthResponse, Option.some.inj he]

theorem healthResponse_status (h : health.SameButWords other) :
    (healthResponse health).status = (healthResponse other).status := by
  cases h <;> rfl

theorem healthResponse_bodiless (h : health.SameButWords other) :
    { healthResponse health with body := "" } = { healthResponse other with body := "" } := by
  cases h <;> rfl

end

/-! ### Answers -/

/-- Two moments that differ in the words of a database that does not answer. -/
structure Moment.SameButWords (m m' : Moment) : Prop where
  now : m.now = m'.now
  random : m.random = m'.random
  health : m.health.SameButWords m'.health

/-- Two sites that differ in the words of what fails. -/
structure Site.SameButWords {σ σ' δ δ' : Type} (S : σ → σ' → Prop) (D : δ → δ' → Prop)
    (site : Site σ δ) (site' : Site σ' δ') : Prop where
  persistence : site.persistence.SameButWords S D site'.persistence
  hasher : site.hasher.SameButWords site'.hasher
  issuer : UserAccounts.Issuer.SameButWords site.issuer site'.issuer

theorem failureResponse_same {failure other : Failure} (h : failure.SameButWords other) :
    failureResponse failure = failureResponse other := by
  rcases h with rfl | ⟨-, hinside, hinside'⟩
  · rfl
  · rw [failureResponse_of_isInternal hinside, failureResponse_of_isInternal hinside']

section

variable {σ σ' δ δ' : Type} {S : σ → σ' → Prop} {D : δ → δ' → Prop} {site : Site σ δ}
  {site' : Site σ' δ'} {m m' : Moment} {s : σ} {s' : σ'}

/-- What is done with a form comes to related failures or to related outputs, so the answers are
related as well. -/
theorem respondForm_step {α β β' : Type} [Form α] {run : α → σ → Except Failure β × σ}
    {run' : α → σ' → Except Failure β' × σ'} {E : Failure → Failure → Prop} {O : β → β' → Prop}
    {R : Response → Response → Prop} {status : Nat} {body : β → Json.Value}
    {body' : β' → Json.Value} (r : Request)
    (hrun : ∀ form, SameStep E O S (run form s) (run' form s')) (hs : S s s')
    (hrefl : ∀ failure, E failure failure)
    (hfail : ∀ {failure other}, E failure other →
      R (failureResponse failure) (failureResponse other))
    (hdone : ∀ {output output'}, O output output' →
      R (.json status (body output)) (.json status (body' output'))) :
    R (respondForm run status body r s).1 (respondForm run' status body' r s').1 ∧
      S (respondForm run status body r s).2 (respondForm run' status body' r s').2 := by
  cases hform : readForm α r with
  | error failure =>
    rw [respondForm_unread hform, respondForm_unread hform]
    exact ⟨hfail (hrefl failure), hs⟩
  | ok form =>
    have hcome := hrun form
    generalize hstep : run form s = step at hcome
    generalize hstep' : run' form s' = step' at hcome
    cases hcome with
    | error hf hkept =>
      rw [respondForm_of_error hform hstep, respondForm_of_error hform hstep']
      exact ⟨hfail hf, hkept⟩
    | ok ho hkept =>
      rw [respondForm_of_ok hform hstep, respondForm_of_ok hform hstep']
      exact ⟨hdone ho, hkept⟩

/-- What is done with a form comes to the same but for words, so the answer is the same. -/
theorem respondForm_same {α β : Type} [Form α] {run : α → σ → Except Failure β × σ}
    {run' : α → σ' → Except Failure β × σ'}
    (hrun : ∀ form, SameStep Failure.SameButWords Eq S (run form s) (run' form s')) (hs : S s s')
    (status : Nat) (body : β → Json.Value) (r : Request) :
    (respondForm run status body r s).1 = (respondForm run' status body r s').1 ∧
      S (respondForm run status body r s).2 (respondForm run' status body r s').2 :=
  respondForm_step r hrun hs (fun _ => .inl rfl) failureResponse_same fun ho => by rw [ho]

theorem answer_signup_same (hsite : site.SameButWords S D site') (hm : m.SameButWords m')
    (r : Request) (hs : S s s') :
    (site.answer m r s .signup).1 = (site'.answer m' r s' .signup).1 ∧
      S (site.answer m r s .signup).2 (site'.answer m' r s' .signup).2 := by
  rw [site.answer_signup, site'.answer_signup]
  refine respondForm_same (fun form => ?_) hs 201 signupBody r
  unfold Site.signupWith
  rw [hm.now, hm.random]
  exact signup_same hsite.persistence hsite.hasher _ _ _ hs

theorem answer_login_same (hsite : site.SameButWords S D site') (hm : m.SameButWords m')
    (r : Request) (hs : S s s') :
    (site.answer m r s .login).1 = (site'.answer m' r s' .login).1 ∧
      S (site.answer m r s .login).2 (site'.answer m' r s' .login).2 := by
  rw [site.answer_login, site'.answer_login]
  refine respondForm_same (fun form => ?_) hs 200 loginBody r
  unfold Site.loginWith
  rw [hm.now]
  exact login_same hsite.persistence hsite.hasher hsite.issuer _ _ hs

/-- Two answers to one request: their statuses are the same, and so is all the rest, unless the
words of a database that does not answer were asked for and differ. -/
structure AnsweredAlike (r : Request) (health other : Health) (answer answer' : Response) :
    Prop where
  status : answer.status = answer'.status
  rest : answer = answer' ↔ (r.AsksForHealth → health.words? = other.words?)

theorem AnsweredAlike.of_eq {r : Request} {health other : Health} {answer : Response}
    (h : r.AsksForHealth → health.words? = other.words?) :
    AnsweredAlike r health other answer answer :=
  ⟨rfl, fun _ => h, fun _ => rfl⟩

theorem answer_health_same (site : Site σ δ) (site' : Site σ' δ')
    (h : m.health.SameButWords m'.health) {r : Request} (hr : r.Asks .health) (s : σ) (s' : σ') :
    AnsweredAlike r m.health m'.health (site.answer m r s .health).1
      (site'.answer m' r s' .health).1 := by
  simp only [Site.answer]
  rcases hr.health_method with hget | hhead
  · have hne : ¬ r.method = "HEAD" := by
      rw [hget]
      decide
    have hask : r.AsksForHealth := ⟨Route.ofPath?_eq_some_iff.mp hr.path, hget⟩
    rw [if_neg hne, if_neg hne]
    refine ⟨healthResponse_status h, ?_⟩
    rw [healthResponse_eq_iff h]
    exact ⟨fun hwords _ => hwords, fun hwords => hwords hask⟩
  · -- To `HEAD` no body is sent, and the words stand nowhere else.
    have hne : ¬ r.AsksForHealth := by
      intro hask
      have hmethods := hask.method.symm.trans hhead
      exact absurd hmethods (by decide)
    rw [if_pos hhead, if_pos hhead, healthResponse_bodiless h]
    exact .of_eq fun hask => absurd hask hne

theorem respond_same (hsite : site.SameButWords S D site') (hm : m.SameButWords m') (r : Request)
    (hs : S s s') :
    AnsweredAlike r m.health m'.health (site.respond m r s).1 (site'.respond m' r s').1 ∧
      S (site.respond m r s).2 (site'.respond m' r s').2 := by
  by_cases hroute : ∃ route, r.Asks route
  · obtain ⟨route, h⟩ := hroute
    rw [site.respond_of_asks h, site'.respond_of_asks h]
    cases route with
    | health => exact ⟨answer_health_same site site' hm.health h s s', hs⟩
    | signup =>
      obtain ⟨hanswer, hkept⟩ := answer_signup_same hsite hm r hs
      rw [hanswer]
      exact ⟨.of_eq fun hask => absurd hask (h.not_health nofun), hkept⟩
    | login =>
      obtain ⟨hanswer, hkept⟩ := answer_login_same hsite hm r hs
      rw [hanswer]
      exact ⟨.of_eq fun hask => absurd hask (h.not_health nofun), hkept⟩
  · have hnone : ∀ route, ¬ r.Asks route := fun route h => hroute ⟨route, h⟩
    rw [site.respond_turnedAway hnone, site'.respond_turnedAway hnone]
    exact ⟨.of_eq fun hask => absurd hask.asks (hnone .health), hs⟩

end

/-! ### Requests one after another -/

/-- The same request at two moments that differ in words. -/
structure SameCall (call call' : Moment × Request) : Prop where
  moment : call.1.SameButWords call'.1
  request : call.2 = call'.2

/-- The same request was answered in the same way. -/
structure Exchange.SameButHealth (exchange exchange' : Exchange) : Prop where
  request : exchange.request = exchange'.request
  answer : AnsweredAlike exchange.request exchange.moment.health exchange'.moment.health
    exchange.response exchange'.response

section

variable {σ σ' δ δ' : Type} {S : σ → σ' → Prop} {D : δ → δ' → Prop} {site : Site σ δ}
  {site' : Site σ' δ'} {s : σ} {s' : σ'}

/-- **Answers keep the words of failures to themselves, but for the health.** Two sites that differ
in the words of what fails are asked the same, one request after another. Each is answered by the
same status on both sides, and in the same way altogether if and only if `GET /health` was not asked
or the words of the database are the same. -/
theorem told_only_of_health (hsite : site.SameButWords S D site') (hs : S s s')
    {calls calls' : List (Moment × Request)} (hcalls : List.Forall₂ SameCall calls calls') :
    let run := site.converse calls s
    let run' := site'.converse calls' s'
    List.Forall₂ Exchange.SameButHealth run.1 run'.1 ∧ S run.2 run'.2 := by
  induction hcalls generalizing s s' with
  | nil => exact ⟨.nil, hs⟩
  | @cons call call' calls calls' hcall _ ih =>
    obtain ⟨moment, request⟩ := call
    obtain ⟨moment', request'⟩ := call'
    obtain ⟨hmoment, hrequest⟩ := hcall
    obtain rfl : request = request' := hrequest
    obtain ⟨hanswer, hkept⟩ := respond_same hsite hmoment request hs
    obtain ⟨hrest, hend⟩ := ih hkept
    rw [site.converse_cons, site'.converse_cons]
    exact ⟨.cons ⟨rfl, hanswer⟩ hrest, hend⟩

end

/-- Nobody can be found and the database does not answer: the words are kept from who logs in, and
told to who asks for the health. -/
theorem words_kept_from_login :
    let now : Time.Instant := ⟨0, 0, by decide, by decide, by decide⟩
    let site (words : String) : Site Rows Draft :=
      ⟨Persistence.memory.findFailing (.database (.connection words)), .plain,
        .failing (.signing words)⟩
    let server (words : String) : Database.Server := { refusals := [⟨"SELECT 1", words⟩] }
    let m (words : String) : Moment :=
      ⟨now, ⟨.replicate 16 0, .replicate 16 0⟩, .ofServer (some (server words))⟩
    let login := loginRequest ⟨"ada@example.com", "12345678"⟩
    let ask : Request := ⟨"GET", "/health", [], []⟩
    let run (words : String) :=
      ((site words).converse [(m words, login), (m words, ask)] .empty).1
    ∃ refused health health',
      (run "connection lost").map (·.response) = [refused, health] ∧
      (run "no such host").map (·.response) = [refused, health'] ∧
      health.status = health'.status ∧ health ≠ health' := by
  intro now site server m login ask run
  let lost := "connection lost"
  let unknown := "no such host"
  have hsite : (site lost).SameButWords Eq Eq (site unknown) :=
    ⟨(Persistence.SameButWords.refl .memory).findFailing (Failure.sameButWords_of_faults _ _),
      ⟨fun _ _ => .ok rfl, fun _ _ => .ok rfl⟩,
      fun _ _ => .error (Failure.sameButWords_of_isInternal rfl rfl nofun nofun)⟩
  have hserver : (server lost).SameButWords (server unknown) := ⟨rfl, .cons rfl .nil⟩
  have hm : (m lost).SameButWords (m unknown) := ⟨rfl, rfl, .ofServer hserver⟩
  have hcalls : List.Forall₂ SameCall [(m lost, login), (m lost, ask)]
      [(m unknown, login), (m unknown, ask)] := .cons ⟨hm, rfl⟩ (.cons ⟨hm, rfl⟩ .nil)
  have hruns : List.Forall₂ Exchange.SameButHealth (run lost) (run unknown) :=
    (told_only_of_health hsite (rfl : Rows.empty = Rows.empty) hcalls).1
  obtain ⟨refused, health, hrun⟩ : ∃ refused health,
    run lost = [⟨m lost, login, refused⟩, ⟨m lost, ask, health⟩] := ⟨_, _, rfl⟩
  obtain ⟨refused', health', hrun'⟩ : ∃ refused health,
    run unknown = [⟨m unknown, login, refused⟩, ⟨m unknown, ask, health⟩] := ⟨_, _, rfl⟩
  rw [hrun, hrun'] at hruns
  obtain ⟨hlogin, hrest⟩ := List.forall₂_cons.mp hruns
  obtain ⟨hhealth, -⟩ := List.forall₂_cons.mp hrest
  have hloginAsks : ¬ login.AsksForHealth := fun hask => absurd hask.method (by decide)
  have hasks : ask.AsksForHealth := ⟨by decide, rfl⟩
  obtain rfl : refused = refused' := hlogin.answer.rest.mpr fun hask => absurd hask hloginAsks
  refine ⟨refused, health, health', by rw [hrun]; rfl, by rw [hrun']; rfl,
    hhealth.answer.status, ?_⟩
  intro he
  have hwords : (m lost).health.words? = (m unknown).health.words? :=
    hhealth.answer.rest.mp he hasks
  have htold : ∀ words, (m words).health = .unhealthy (Database.Command.probe.fault words) :=
    Health.ofServer_refused (by decide)
  rw [htold, htold] at hwords
  exact absurd hwords (by decide)

/-- The words of a database that does not answer are told to who asks for the health. -/
theorem ping_words_told :
    let now : Time.Instant := ⟨0, 0, by decide, by decide, by decide⟩
    let site : Site Rows Draft := ⟨.memory, .plain, fun id now => .ok ⟨id.toText, now⟩⟩
    let server (words : String) : Database.Server := { refusals := [⟨"SELECT 1", words⟩] }
    let m (words : String) : Moment :=
      ⟨now, ⟨.replicate 16 0, .replicate 16 0⟩, .ofServer (some (server words))⟩
    let ask : Request := ⟨"GET", "/health", [], []⟩
    let told (words : String) : Response := (site.respond (m words) ask .empty).1
    (server "connection lost").SameButWords (server "connection refused on 10.0.0.3") ∧
      (told "connection lost").status = 503 ∧
      (told "connection refused on 10.0.0.3").status = 503 ∧
      (told "connection lost").body ≠ (told "connection refused on 10.0.0.3").body := by
  intro now site server m ask told
  have hasks : ask.Asks .health := ⟨by decide, by decide⟩
  have htold : ∀ words, told words =
      healthResponse (.unhealthy (Database.Command.probe.fault words)) := by
    intro words
    have hhealth : (m words).health = .unhealthy (Database.Command.probe.fault words) :=
      Health.ofServer_refused (by decide) words
    show (site.respond (m words) ask .empty).1 = _
    rw [site.respond_of_asks hasks, ← hhealth]
    rfl
  refine ⟨⟨rfl, .cons rfl .nil⟩, ?_, ?_, ?_⟩
  · rw [htold]
    rfl
  · rw [htold]
    rfl
  · rw [htold, htold, Ne, unhealthy_body_inj]
    decide

end Http

end UserAccounts
