/-
# What a token says

A token can be taken apart again: it has three parts with dots between them, in the
alphabet of tokens, and they decode to the header, to claims that can be read, and to
what authenticates the other two with the secret (`IsToken`). So a token that has been
issued says for whom, since when and until when, and two tokens of the same text say
the same (`issued_tokens`).

Key definitions: `IsTokenDigit`, `IsToken`.
Key theorems: `Claims.ofJson_toJson`, `splitOn_signedToken`, `signedToken_isToken`,
`IsToken.claims_unique`, `issued_tokens`.
-/
import UserAccounts.Proofs.Crypto.Hmac
import UserAccounts.Proofs.Json.Layout
import UserAccounts.Proofs.Text.Base64
import UserAccounts.Proofs.Time.Span
import UserAccounts.Proofs.User.Id
import UserAccounts.Token.Issuer

namespace UserAccounts

/-! ### Claims -/

theorem Json.fits_signed64 (n : Int64) : (Json.Kind.integer Json.signed64).Fits n.toInt := by
  have hlow : Json.signed64.low ≤ n.toInt := n.minValue_le_toInt
  have hhigh : n.toInt ≤ Json.signed64.high := n.toInt_le
  refine ⟨hlow, hhigh, ?_, ?_⟩
  · exact Int.le_trans (by decide) hlow
  · exact Int.le_trans hhigh (by decide)

/-- **Claims are read as they were written.** -/
theorem Claims.ofJson_toJson (claims : Claims) :
    Claims.ofJson (Utf8.encode claims.toJson.toText) = .ok claims := by
  have hfit : Json.Values.Fit shape.fields
      (claims.subject, claims.issuedAt.toInt, claims.expiresAt.toInt, ()) :=
    ⟨trivial, Json.fits_signed64 _, Json.fits_signed64 _, trivial⟩
  have hread := Json.readRecord_written (by decide) hfit (show claims.toJson = _ from rfl)
  unfold Claims.ofJson
  simp only [hread, bind, Except.bind, Int64.ofInt_toInt]

/-! ### Parts -/

/-- The digits of the parts of a token. -/
def IsTokenDigit (c : Char) : Prop :=
  c.isAlphanum = true ∨ c = '-' ∨ c = '_'

theorem IsTokenDigit.ne_dot {c : Char} (h : IsTokenDigit c) : c ≠ '.' := by
  rintro rfl
  exact absurd h (by unfold IsTokenDigit; decide)

theorem isTokenDigit_of_mem {bytes : Bytes} {c : Char} (h : c ∈ tokenPart bytes) :
    IsTokenDigit c := by
  obtain ⟨n, hn, rfl⟩ := Base64.exists_digit_of_mem_encode h
  exact Base64.webSafe_digit hn

theorem dot_notMem_tokenPart (bytes : Bytes) : '.' ∉ tokenPart bytes :=
  fun h => (isTokenDigit_of_mem h).ne_dot rfl

theorem tokenPart_ne_nil {bytes : Bytes} (h : bytes ≠ []) : tokenPart bytes ≠ [] :=
  mt Base64.encode_eq_nil_iff.mp h

theorem decode_tokenPart (bytes : Bytes) :
    Base64.decode Base64.webSafe (tokenPart bytes) = some bytes :=
  Base64.decode_encode Base64.webSafe_legible bytes

/-! ### Tokens -/

/-- The text is a token: it has three parts, in the digits of tokens. The first is the header; the
second can be read as these claims; the third authenticates the other two with the secret. -/
def IsToken (secret : Bytes) (claims : Claims) (value : String) : Prop :=
  ∃ header payload mark : List Char,
    value.toList.splitOn '.' = [header, payload, mark] ∧
    (∀ part ∈ [header, payload, mark], part ≠ [] ∧ ∀ c ∈ part, IsTokenDigit c) ∧
    Base64.decode Base64.webSafe header =
      some (Utf8.encode "\x7b\"typ\":\"JWT\",\"alg\":\"HS256\"\x7d") ∧
    (∃ text, Base64.decode Base64.webSafe payload = some (Utf8.encode text) ∧
      Claims.ofJson (Utf8.encode text) = .ok claims) ∧
    Base64.decode Base64.webSafe mark =
      some (Hmac.authentication secret (Utf8.encode (String.ofList (header ++ '.' :: payload))))

theorem splitOn_signedToken (key : Hmac.Key) (claims : Claims) :
    (signedToken key claims).toList.splitOn '.' =
      [tokenPart (Utf8.encode tokenHeader.toText), tokenPart (Utf8.encode claims.toJson.toText),
        tokenPart (signature key (signedPart claims))] := by
  have hjoined : (signedToken key claims).toList = ['.'].intercalate
      [tokenPart (Utf8.encode tokenHeader.toText), tokenPart (Utf8.encode claims.toJson.toText),
        tokenPart (signature key (signedPart claims))] := by
    unfold signedToken signedPart
    rw [String.toList_ofList]
    simp [List.intercalate, List.intersperse]
  have hdots : ∀ part ∈ [tokenPart (Utf8.encode tokenHeader.toText),
      tokenPart (Utf8.encode claims.toJson.toText),
      tokenPart (signature key (signedPart claims))], '.' ∉ part := by
    simp only [List.forall_mem_cons]
    exact ⟨dot_notMem_tokenPart _, dot_notMem_tokenPart _, dot_notMem_tokenPart _, by simp⟩
  rw [hjoined]
  exact List.splitOn_intercalate '.' hdots (List.cons_ne_nil _ _)

theorem encode_claims_ne_nil (claims : Claims) : Utf8.encode claims.toJson.toText ≠ [] := by
  rw [Utf8.encode_eq, Json.Value.toText, String.toList_ofList]
  exact List.cons_ne_nil _ _

theorem signature_ne_nil (key : Hmac.Key) (signed : List Char) : signature key signed ≠ [] := by
  have hlength : (signature key signed).length = 32 := rfl
  exact List.ne_nil_of_length_pos (by rw [hlength]; decide)

theorem signedToken_isToken (secret : Bytes) (claims : Claims) :
    IsToken secret claims (signedToken (.ofSecret secret) claims) := by
  refine ⟨_, _, _, splitOn_signedToken _ claims, ?_, decode_tokenPart _, ⟨_, decode_tokenPart _,
    claims.ofJson_toJson⟩, ?_⟩
  · have hdigits : ∀ {bytes : Bytes}, bytes ≠ [] →
        tokenPart bytes ≠ [] ∧ ∀ c ∈ tokenPart bytes, IsTokenDigit c :=
      fun h => ⟨tokenPart_ne_nil h, fun _ => isTokenDigit_of_mem⟩
    simp only [List.forall_mem_cons]
    exact ⟨hdigits (by decide), hdigits (encode_claims_ne_nil claims),
      hdigits (signature_ne_nil _ _), by simp⟩
  · rw [decode_tokenPart, signature, Hmac.authenticate_ofSecret]
    rfl

/-- A text is a token with at most one set of claims. -/
theorem IsToken.claims_unique {secret secret' : Bytes} {claims claims' : Claims} {value : String}
    (h : IsToken secret claims value) (h' : IsToken secret' claims' value) : claims = claims' := by
  obtain ⟨header, payload, mark, hparts, -, -, ⟨text, hdecode, hread⟩, -⟩ := h
  obtain ⟨header', payload', mark', hparts', -, -, ⟨text', hdecode', hread'⟩, -⟩ := h'
  rw [hparts] at hparts'
  obtain ⟨-, rfl, -⟩ : header = header' ∧ payload = payload' ∧ mark = mark' := by
    simpa using hparts'
  rw [hdecode] at hdecode'
  rw [Option.some.inj hdecode', hread'] at hread
  exact (Except.ok.inj hread).symm

/-! ### Tokens that are issued -/

def Claims.issued (id : Id) (now expiresAt : Time.Instant) : Claims where
  subject := id.toText
  issuedAt := Int64.ofInt now.seconds
  expiresAt := Int64.ofInt expiresAt.seconds

theorem Issuer.isToken_of_issued {settings : TokenSettings} {id : Id} {now : Time.Instant}
    {token : AccessToken} (h : Issuer.ofSettings settings id now = .ok token) :
    IsToken (Utf8.encode settings.secret) (.issued id now token.expiresAt) token.value := by
  unfold Issuer.ofSettings at h
  split at h
  · cases h
  · rw [← Except.ok.inj h]
    exact signedToken_isToken _ _

theorem Claims.issued_injective {id id' : Id} {now now' expiresAt expiresAt' : Time.Instant}
    (h : Claims.issued id now expiresAt = Claims.issued id' now' expiresAt') :
    id = id' ∧ now.seconds = now'.seconds ∧ expiresAt.seconds = expiresAt'.seconds := by
  have hid : id.toText = id'.toText := congrArg Claims.subject h
  have hnow := congrArg (·.issuedAt.toInt) h
  have hexpires := congrArg (·.expiresAt.toInt) h
  simp only [issued, Time.Instant.toInt_ofInt_seconds] at hnow hexpires
  refine ⟨?_, hnow, hexpires⟩
  have hread := Id.ofText?_toText id
  rw [hid, Id.ofText?_toText] at hread
  exact (Option.some.inj hread).symm

/-- **What tokens say.** Whatever is signed with a secret, of any bytes, is a token. One that is
issued says for whom, since when and until when, in seconds; and two of the same text have been
issued for the same user, since and until the same second. -/
theorem issued_tokens :
    (∀ (secret : Bytes) (claims : Claims),
      IsToken secret claims (signedToken (.ofSecret secret) claims)) ∧
    (∀ (settings : TokenSettings) (id : Id) (now : Time.Instant) (token : AccessToken),
      Issuer.ofSettings settings id now = .ok token →
        ∃ claims, IsToken (Utf8.encode settings.secret) claims token.value ∧
          Id.ofText? claims.subject = some id ∧ claims.issuedAt.toInt = now.seconds ∧
          claims.expiresAt.toInt = token.expiresAt.seconds) ∧
    ∀ (settings settings' : TokenSettings) (id id' : Id) (now now' : Time.Instant)
      (token token' : AccessToken),
      Issuer.ofSettings settings id now = .ok token →
      Issuer.ofSettings settings' id' now' = .ok token' →
      token.value = token'.value →
        id = id' ∧ now.seconds = now'.seconds ∧
          token.expiresAt.seconds = token'.expiresAt.seconds := by
  refine ⟨signedToken_isToken, ?_, ?_⟩
  · intro settings id now token h
    exact ⟨_, Issuer.isToken_of_issued h, Id.ofText?_toText id,
      now.toInt_ofInt_seconds, token.expiresAt.toInt_ofInt_seconds⟩
  · intro settings settings' id id' now now' token token' h h' hvalue
    have htoken := Issuer.isToken_of_issued h
    rw [hvalue] at htoken
    exact Claims.issued_injective (htoken.claims_unique (Issuer.isToken_of_issued h'))

/-- A token that is issued before 1970, and signed with an empty secret. -/
theorem issued_without_secret :
    let now : Time.Instant := ⟨-1, 0, by decide, by decide, by decide⟩
    let id : Id := ⟨.replicate 16 7⟩
    ∃ token claims, Issuer.ofSettings ⟨"", 5⟩ id now = .ok token ∧
      IsToken [] claims token.value ∧ Id.ofText? claims.subject = some id ∧
      claims.issuedAt.toInt = -1 ∧ claims.expiresAt.toInt = 299 := by
  intro now id
  have hissued : ∃ token, Issuer.ofSettings ⟨"", 5⟩ id now = .ok token ∧
      token.expiresAt.seconds = 299 := ⟨_, rfl, rfl⟩
  obtain ⟨token, htoken, hexpires⟩ := hissued
  obtain ⟨claims, hclaims, hid, hnow, hend⟩ := issued_tokens.2.1 ⟨"", 5⟩ id now token htoken
  exact ⟨token, claims, htoken, hclaims, hid, hnow, hend.trans hexpires⟩

end UserAccounts
