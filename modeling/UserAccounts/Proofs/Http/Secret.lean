/-
# What answers tell of the secret

Tokens are signed with a secret. Two sites differ in nothing but the secret, and the same
is asked of them, one request after another: then they keep the same, and their answers
are the same but for the third parts of the tokens that are answered to who logs in
(`secret_in_marks_only`).

Signing is the last thing that is done before the answer, and what is signed does not
depend on the secret: the two tokens have one header and the same claims, and marks of
one length (`signedAlike_signedToken`). Nothing in a token has to be escaped, so it stands
in the answer digit by digit, and what stands before and behind it is the same on both
sides (`loginBody_signedAlike`).

Key definitions: `SignedAlike`, `LoginOutput.SignedAlike`, `Response.SignedAlike`,
`Exchange.SameButMark`.
Key theorems: `signedAlike_signedToken`, `authenticate_signedAlike`,
`loginBody_signedAlike`, `respond_sameButMark`, `secret_in_marks_only`.
-/
import UserAccounts.Proofs.Http.Hiding
import UserAccounts.Proofs.Http.Times
import UserAccounts.Proofs.Text.Blank

namespace UserAccounts

/-! ### Tokens -/

/-- Two tokens with the same claims, each signed with its own secret. They differ in their third
parts only, and these are of one length. -/
structure SignedAlike (secret secret' : Bytes) (value value' : String) : Prop where
  claims : ∃ claims, IsToken secret claims value ∧ IsToken secret' claims value'
  parts : ∃ header payload mark mark', value.toList.splitOn '.' = [header, payload, mark] ∧
    value'.toList.splitOn '.' = [header, payload, mark'] ∧ mark.length = mark'.length

theorem length_signature (key : Hmac.Key) (signed : List Char) :
    (signature key signed).length = 32 := rfl

theorem signedAlike_signedToken (secret secret' : Bytes) (claims : Claims) :
    SignedAlike secret secret' (signedToken (.ofSecret secret) claims)
      (signedToken (.ofSecret secret') claims) where
  claims := ⟨claims, signedToken_isToken secret claims, signedToken_isToken secret' claims⟩
  parts := by
    refine ⟨_, _, _, _, splitOn_signedToken _ claims, splitOn_signedToken _ claims, ?_⟩
    unfold tokenPart
    rw [Base64.length_encode, Base64.length_encode, length_signature, length_signature]

theorem IsTokenDigit.escaped {c : Char} (h : IsTokenDigit c) : Json.escaped c = [c] := by
  have hne : ∀ d, ¬ IsTokenDigit d → c ≠ d := fun d hd he => hd (he ▸ h)
  have hlow : 0x20 ≤ c.toNat := by
    rcases h with h | rfl | rfl
    · exact Nat.le_trans (by decide) (Text.toNat_of_isAlphanum h).1
    · decide
    · decide
  exact Json.escaped_eq_self (hne '"' (by unfold IsTokenDigit; decide))
    (hne '\\' (by unfold IsTokenDigit; decide)) hlow

theorem IsToken.mem {secret : Bytes} {claims : Claims} {value : String}
    (h : IsToken secret claims value) {c : Char} (hc : c ∈ value.toList) :
    IsTokenDigit c ∨ c = '.' := by
  obtain ⟨header, payload, mark, hparts, hdigits, -⟩ := h
  have hvalue : value.toList = header ++ '.' :: (payload ++ '.' :: mark) := by
    have hjoined : ['.'].intercalate (value.toList.splitOn '.') = value.toList :=
      List.intercalate_splitOn '.'
    rw [← hjoined, hparts]
    simp [List.intercalate, List.intersperse]
  simp only [List.forall_mem_cons] at hdigits
  obtain ⟨⟨-, hheader⟩, ⟨-, hpayload⟩, ⟨-, hmark⟩, -⟩ := hdigits
  simp only [hvalue, List.mem_append, List.mem_cons] at hc
  rcases hc with hc | hc | hc | hc | hc
  · exact .inl (hheader c hc)
  · exact .inr hc
  · exact .inl (hpayload c hc)
  · exact .inr hc
  · exact .inl (hmark c hc)

/-- Nothing in a token is escaped. -/
theorem IsToken.writeString {secret : Bytes} {claims : Claims} {value : String}
    (h : IsToken secret claims value) :
    Json.writeString value = '"' :: (value.toList ++ ['"']) := by
  have hsame : ∀ c ∈ value.toList, Json.escaped c = [c] := by
    intro c hc
    rcases h.mem hc with hdigit | rfl
    · exact hdigit.escaped
    · rfl
  unfold Json.writeString
  rw [List.flatMap_congr hsame, List.flatMap_singleton']
  rfl

/-! ### Logging in -/

/-- The same person is let in, until the same time, with tokens that are signed alike. -/
structure LoginOutput.SignedAlike (secret secret' : Bytes) (output output' : LoginOutput) :
    Prop where
  token : UserAccounts.SignedAlike secret secret' output.token output'.token
  rest : output' = { output with token := output'.token }

/-- Two issuers that issue tokens until the same time, signed alike, or fail in the same way. -/
def Issuer.SignedAlike (secret secret' : Bytes) (issuer issuer' : Issuer) : Prop :=
  ∀ id now, SameResult Eq
    (fun token token' => UserAccounts.SignedAlike secret secret' token.value token'.value ∧
      token.expiresAt = token'.expiresAt)
    (issuer id now) (issuer' id now)

theorem Issuer.signedAlike_ofSettings (secret secret' : String) (minutes : Int) :
    Issuer.SignedAlike (Utf8.encode secret) (Utf8.encode secret') (.ofSettings ⟨secret, minutes⟩)
      (.ofSettings ⟨secret', minutes⟩) := by
  intro id now
  unfold Issuer.ofSettings
  simp only
  cases now.addMinutes? minutes with
  | none => exact .error rfl
  | some expiresAt => exact .ok ⟨signedAlike_signedToken _ _ _, rfl⟩

theorem authenticate_signedAlike {secret secret' : Bytes} {issuer issuer' : Issuer}
    (hissuer : Issuer.SignedAlike secret secret' issuer issuer') (hasher : Hasher)
    (found : Except Failure User) (password : String) (now : Time.Instant) :
    SameResult Eq (LoginOutput.SignedAlike secret secret')
      (authenticate hasher issuer found password now)
      (authenticate hasher issuer' found password now) := by
  cases found with
  | error failure => cases failure <;> exact .error rfl
  | ok user =>
    unfold authenticate
    simp only
    cases checkCredentials hasher user password with
    | error failure => exact .error rfl
    | ok =>
      have hissue := hissuer user.id now
      simp only
      generalize issuer user.id now = issued at hissue
      generalize issuer' user.id now = issued' at hissue
      cases hissue with
      | error hf => exact .error hf
      | ok ht => exact .ok ⟨ht.1, by simp only [ht.2]⟩

namespace Http

/-! ### Answers -/

/-- Two answers with tokens that are signed alike, and nothing else in them differs. -/
structure Response.SignedAlike (secret secret' : Bytes) (answer answer' : Response) : Prop where
  status : answer.status = 200
  rest : answer' = { answer with body := answer'.body }
  body : ∃ before value value' after, UserAccounts.SignedAlike secret secret' value value' ∧
    answer.Tells "token" value ∧ answer'.Tells "token" value' ∧
    answer.body = String.ofList (before ++ value.toList ++ after) ∧
    answer'.body = String.ofList (before ++ value'.toList ++ after)

/-- What stands behind the token in the answer to who has logged in. -/
def behindToken (output : LoginOutput) : List Char :=
  '"' :: Json.writeMoreMembers
    [("expiresAt", .text (output.expiresAt.toText .seconds)),
      ("user", .object [("id", .text output.userId.toText), ("name", .text output.userName),
        ("email", .text output.userEmail)])]

theorem loginBody_toText {secret : Bytes} {claims : Claims} {output : LoginOutput}
    (h : IsToken secret claims output.token) :
    (Response.json 200 (loginBody output)).body =
      String.ofList ("\x7b\"token\":\"".toList ++ output.token.toList ++ behindToken output) := by
  have hbody : (Response.json 200 (loginBody output)).body = String.ofList
      ("\x7b\"token\":".toList ++ (Json.writeString output.token ++
        (behindToken output).tail)) := by
    rfl
  rw [hbody, h.writeString]
  simp [behindToken]

theorem loginBody_signedAlike {secret secret' : Bytes} {output output' : LoginOutput}
    (h : output.SignedAlike secret secret' output') :
    Response.SignedAlike secret secret' (.json 200 (loginBody output))
      (.json 200 (loginBody output')) where
  status := rfl
  rest := rfl
  body := by
    obtain ⟨claims, htoken, htoken'⟩ := h.token.claims
    have hbehind : behindToken output' = behindToken output := by
      rw [h.rest]
      rfl
    refine ⟨_, output.token, output'.token, behindToken output, h.token,
      (loginBody_tells output).1, (loginBody_tells output').1, loginBody_toText htoken, ?_⟩
    rw [loginBody_toText htoken', hbehind]

/-- The same was asked at the same moment, and the answers are the same, unless somebody was let in;
then they are the same but for the mark of the token. -/
structure Exchange.SameButMark (secret secret' : Bytes) (exchange exchange' : Exchange) :
    Prop where
  moment : exchange.moment = exchange'.moment
  request : exchange.request = exchange'.request
  response : exchange.response = exchange'.response ∨ exchange.request.Asks .login ∧
    exchange.response.SignedAlike secret secret' exchange'.response

section

variable {σ δ : Type} (persistence : Persistence σ δ) (hasher : Hasher)

theorem answer_signup_issuer (issuer issuer' : Issuer) (m : Moment) (r : Request) (s : σ) :
    Site.answer ⟨persistence, hasher, issuer⟩ m r s .signup =
      Site.answer ⟨persistence, hasher, issuer'⟩ m r s .signup :=
  rfl

section

variable {secret secret' : Bytes} {issuer issuer' : Issuer}

theorem answer_login_signedAlike (hissuer : Issuer.SignedAlike secret secret' issuer issuer')
    (m : Moment) (r : Request) (s : σ) :
    let answer := Site.answer ⟨persistence, hasher, issuer⟩ m r s .login
    let answer' := Site.answer ⟨persistence, hasher, issuer'⟩ m r s .login
    (answer.1 = answer'.1 ∨ answer.1.SignedAlike secret secret' answer'.1) ∧
      answer.2 = answer'.2 := by
  intro answer answer'
  let Alike (response response' : Response) : Prop :=
    response = response' ∨ response.SignedAlike secret secret' response'
  have hlogin : ∀ form : LoginForm, SameStep Eq (LoginOutput.SignedAlike secret secret') Eq
      (Site.loginWith ⟨persistence, hasher, issuer⟩ m form s)
      (Site.loginWith ⟨persistence, hasher, issuer'⟩ m form s) := fun form =>
    (authenticate_signedAlike hissuer hasher _ form.password m.now).step rfl
  simp only [answer, answer', Site.answer_login]
  exact respondForm_step (R := Alike) r hlogin rfl (fun _ => rfl) (fun hf => .inl (by rw [hf]))
    fun ho => .inr (loginBody_signedAlike ho)

/-- One request is answered the same but for a mark. -/
theorem respond_sameButMark (hissuer : Issuer.SignedAlike secret secret' issuer issuer')
    (m : Moment) (r : Request) (s : σ) :
    let step := Site.respond ⟨persistence, hasher, issuer⟩ m r s
    let step' := Site.respond ⟨persistence, hasher, issuer'⟩ m r s
    Exchange.SameButMark secret secret' ⟨m, r, step.1⟩ ⟨m, r, step'.1⟩ ∧ step.2 = step'.2 := by
  intro step step'
  by_cases hroute : ∃ route, r.Asks route
  · obtain ⟨route, h⟩ := hroute
    simp only [step, step', Site.respond_of_asks _ h]
    cases route with
    | health => exact ⟨⟨rfl, rfl, .inl rfl⟩, rfl⟩
    | signup =>
      rw [answer_signup_issuer persistence hasher issuer issuer']
      exact ⟨⟨rfl, rfl, .inl rfl⟩, rfl⟩
    | login =>
      obtain ⟨hanswer, hkept⟩ := answer_login_signedAlike persistence hasher hissuer m r s
      exact ⟨⟨rfl, rfl, hanswer.imp_right fun halike => ⟨h, halike⟩⟩, hkept⟩
  · have hnone : ∀ route, ¬ r.Asks route := fun route h => hroute ⟨route, h⟩
    simp only [step, step', Site.respond_turnedAway _ hnone]
    exact ⟨⟨rfl, rfl, .inl rfl⟩, trivial⟩

theorem converse_sameButMark (hissuer : Issuer.SignedAlike secret secret' issuer issuer')
    (calls : List (Moment × Request)) (s : σ) :
    let run := Site.converse ⟨persistence, hasher, issuer⟩ calls s
    let run' := Site.converse ⟨persistence, hasher, issuer'⟩ calls s
    List.Forall₂ (Exchange.SameButMark secret secret') run.1 run'.1 ∧ run.2 = run'.2 := by
  induction calls generalizing s with
  | nil => exact ⟨.nil, rfl⟩
  | cons call calls ih =>
    obtain ⟨m, r⟩ := call
    obtain ⟨hanswer, hkept⟩ := respond_sameButMark persistence hasher hissuer m r s
    simp only [Site.converse_cons, ← hkept]
    obtain ⟨hrest, hend⟩ := ih (Site.respond ⟨persistence, hasher, issuer⟩ m r s).2
    exact ⟨.cons hanswer hrest, hend⟩

end

/-- **The secret is in the marks of tokens, and nowhere else.** Two sites keep users and check
passwords in the same way, and issue tokens for as long, each with its own secret. The same is asked
of both, one request after another, at the same moments. All answers are the same, unless somebody
is let in: then the statuses, the headers and the bodies are the same but for the third part of the
token, which is of one length on both sides. In the end the same is kept. -/
theorem secret_in_marks_only (minutes : Int) (secret secret' : String)
    (calls : List (Moment × Request)) (s : σ) :
    let run := Site.converse ⟨persistence, hasher, .ofSettings ⟨secret, minutes⟩⟩ calls s
    let run' := Site.converse ⟨persistence, hasher, .ofSettings ⟨secret', minutes⟩⟩ calls s
    List.Forall₂ (Exchange.SameButMark (Utf8.encode secret) (Utf8.encode secret')) run.1 run'.1 ∧
      run.2 = run'.2 :=
  converse_sameButMark persistence hasher (Issuer.signedAlike_ofSettings secret secret' minutes)
    calls s

end

end Http

end UserAccounts
