/-
# What settings show when they are laid open

Laid open, settings show every value but the secret: the text of the settings for tokens
is the same whatever the secret, and all else can be found out from the text, value by
value. So two settings are shown alike exactly if they differ in the secret alone
(`Settings.inspect_eq_iff`).

The password of a database is not kept so. It stands in the address between the colon
behind the user and the last `@` before the host (`Net.Url.Frame.fill`), where it is read
(`Net.Url.Frame.password_read`), and the address is shown as it is
(`shown_alike_iff`).

Key definitions: `Net.Url.Frame`, `Net.Url.IsPassword`, `Settings.DifferInSecrets`.
Key theorems: `Settings.inspect_eq_iff`, `shown_alike_iff`.
-/
import Mathlib.Data.List.TakeWhile
import UserAccounts.Net.Url
import UserAccounts.Proofs.Text.Blank
import UserAccounts.Proofs.Text.Quoted
import UserAccounts.Settings.Basic

namespace UserAccounts

open Text (ToldApart)

/-! ### Values that are shown -/

theorem word16_toldApart : ToldApart (toString : UInt16 → String) :=
  Text.signed_toldApart.comp (f := fun n : UInt16 => (n.toNat : Int)) fun _ _ h =>
    UInt16.toNat_inj.mp (Int.ofNat.inj h)

theorem word32_toldApart : ToldApart (toString : UInt32 → String) :=
  Text.signed_toldApart.comp (f := fun n : UInt32 => (n.toNat : Int)) fun _ _ h =>
    UInt32.toNat_inj.mp (Int.ofNat.inj h)

/-- What is always written in the same way tells what stands behind it. -/
theorem same_toldApart (text : String) : ToldApart fun _ : Unit => text :=
  fun _ _ h => ⟨rfl, List.append_cancel_left h⟩

/-! ### Settings that are shown -/

theorem ServiceSettings.inspect_toldApart : ToldApart ServiceSettings.inspect := by
  rintro ⟨name, host, port⟩ ⟨name', host', port'⟩ rest more _ _ h
  obtain ⟨rfl, hbehind⟩ := (Text.record_append_iff Text.quoted_toldApart _ _).mp h
  obtain ⟨rfl, hbehind⟩ := (Text.behind_append_iff Text.quoted_toldApart _).mp hbehind
  obtain ⟨rfl, hbehind⟩ := (Text.behind_append_iff word16_toldApart _).mp hbehind
  exact ⟨rfl, List.append_cancel_left hbehind⟩

theorem DatabaseSettings.inspect_toldApart : ToldApart DatabaseSettings.inspect := by
  rintro ⟨url, most, least⟩ ⟨url', most', least'⟩ rest more _ _ h
  obtain ⟨rfl, hbehind⟩ := (Text.record_append_iff Text.quoted_toldApart _ _).mp h
  obtain ⟨rfl, hbehind⟩ := (Text.behind_append_iff word32_toldApart _).mp hbehind
  obtain ⟨rfl, hbehind⟩ := (Text.behind_append_iff word32_toldApart _).mp hbehind
  exact ⟨rfl, List.append_cancel_left hbehind⟩

/-- The settings for tokens show how long these hold, and the same for every secret. -/
def shownMinutes (minutes : Int) : String :=
  TokenSettings.inspect ⟨"", minutes⟩

theorem TokenSettings.inspect_eq (s : TokenSettings) : s.inspect = shownMinutes s.ttlMinutes := rfl

theorem shownMinutes_toldApart : ToldApart shownMinutes := by
  intro minutes minutes' rest more _ _ h
  obtain ⟨-, hbehind⟩ :=
    (Text.record_append_iff (same_toldApart Text.redacted) (a := ()) (b := ()) _ _).mp h
  obtain ⟨rfl, hbehind⟩ := (Text.behind_append_iff Text.signed_toldApart _).mp hbehind
  exact ⟨rfl, List.append_cancel_left hbehind⟩

/-- **Settings show everything but the secret.** -/
theorem Settings.inspect_eq_iff {s t : Settings} :
    s.inspect = t.inspect ↔ s.service = t.service ∧ s.database = t.database ∧
      s.token.ttlMinutes = t.token.ttlMinutes := by
  unfold Settings.inspect
  rw [TokenSettings.inspect_eq, TokenSettings.inspect_eq]
  constructor
  · intro h
    have htext := congrArg (fun text => text.toList ++ []) h
    obtain ⟨hservice, hbehind⟩ :=
      (Text.record_append_iff ServiceSettings.inspect_toldApart _ _).mp htext
    obtain ⟨hdatabase, hbehind⟩ :=
      (Text.behind_append_iff DatabaseSettings.inspect_toldApart _).mp hbehind
    obtain ⟨hminutes, -⟩ := (Text.behind_append_iff shownMinutes_toldApart _).mp hbehind
    exact ⟨hservice, hdatabase, hminutes⟩
  · rintro ⟨hservice, hdatabase, hminutes⟩
    rw [hservice, hdatabase, hminutes]

/-! ### Passwords in addresses -/

namespace Net.Url

/-- An address without its password: a scheme, who asks, and what stands behind the last `@` in
front of the path. -/
structure Frame where
  scheme : List Char
  user : List Char
  place : List Char
  user_chars : ∀ c ∈ user, c ≠ ':' ∧ endsAuthority .free c = false
  last : '@' ∉ place.takeWhile fun c => !endsAuthority .free c

def Frame.behindScheme (frame : Frame) (password : List Char) : List Char :=
  '/' :: '/' :: (frame.user ++ ':' :: password ++ '@' :: frame.place)

def Frame.fill (frame : Frame) (password : List Char) : String :=
  String.ofList (frame.scheme ++ ':' :: frame.behindScheme password)

/-- Nothing in the password ends the part with the host. -/
def IsPassword (password : List Char) : Prop :=
  ∀ c ∈ password, endsAuthority .free c = false

instance (password : List Char) : Decidable (IsPassword password) :=
  decidable_of_iff (password.all fun c => !endsAuthority .free c) (by simp [IsPassword])

theorem Frame.fill_inj (frame : Frame) {p q : List Char} :
    frame.fill p = frame.fill q ↔ p = q := by
  unfold fill behindScheme
  simp [String.ofList_inj]

/-! ### Where passwords are read -/

theorem splitBefore_append {p : Char → Bool} {cs : List Char} (rest : List Char)
    (h : ∀ c ∈ cs, p c = false) :
    splitBefore p (cs ++ rest) = (cs ++ (splitBefore p rest).1, (splitBefore p rest).2) := by
  have hnot : ∀ c ∈ cs, (!p c) = true := fun c hc => by simp [h c hc]
  simp only [splitBefore, List.span_eq_takeWhile_dropWhile]
  rw [List.takeWhile_append_of_pos hnot, List.dropWhile_append_of_pos hnot]

theorem splitBefore_cons {p : Char → Bool} {c : Char} (cs : List Char) (h : p c = true) :
    splitBefore p (c :: cs) = ([], c :: cs) := by
  simp [splitBefore, h]

/-- Who asks, as the part with the host tells it, stands in front of the last `@`. -/
theorem password_ofAuthority {user p place : List Char} (huser : ∀ c ∈ user, c ≠ ':')
    (hplace : '@' ∉ place) :
    (Parts.ofAuthority (user ++ ':' :: p ++ '@' :: place)).password = p := by
  have hback : (user ++ ':' :: p ++ '@' :: place).reverse.span (· != '@') =
      (place.reverse, '@' :: (user ++ ':' :: p).reverse) := by
    rw [List.reverse_append, List.reverse_cons, List.append_assoc]
    refine Text.span_eq_iff.mpr ⟨rfl, ?_, ?_⟩
    · intro c hc
      have hne : c ≠ '@' := by
        rintro rfl
        exact hplace (List.mem_reverse.mp hc)
      simpa using hne
    · simp
  have hasker : splitBefore (· == ':') (user ++ ':' :: p) = (user, ':' :: p) := by
    rw [splitBefore_append _ (by simpa using huser), splitBefore_cons _ (by rfl), List.append_nil]
  simp only [Parts.ofAuthority, hback, List.reverse_reverse, hasker, List.drop_one, List.tail_cons]

theorem authority_eq (cs : List Char) :
    (splitBefore (· == '/') (splitBefore (fun c => c == '?' || c == '#') cs).1).1 =
      cs.takeWhile fun c => !endsAuthority .free c := by
  simp only [splitBefore, List.span_eq_takeWhile_dropWhile, List.takeWhile_takeWhile]
  congr 1
  funext c
  simp [endsAuthority, Bool.and_assoc, beq_eq_decide]

theorem password_ofText (behind : List Char) :
    (Parts.ofText ('/' :: '/' :: behind)).password =
      (Parts.ofAuthority (behind.takeWhile fun c => !endsAuthority .free c)).password := by
  have hslashes : ∀ c ∈ ['/', '/'], (c == '?' || c == '#') = false := by simp
  have hplace := splitBefore_append behind hslashes
  rw [← authority_eq]
  simp only [List.cons_append, List.nil_append] at hplace
  simp only [Parts.ofText, hplace]

/-- **The password is read where it stands.** -/
theorem Frame.password_read (frame : Frame) {p : List Char} (hp : IsPassword p) :
    (Parts.ofText (frame.behindScheme p)).password = p := by
  have hfront : ∀ c ∈ frame.user ++ ':' :: p ++ ['@'], (!endsAuthority .free c) = true := by
    intro c hc
    rw [Bool.not_eq_true']
    simp only [List.append_assoc, List.mem_append, List.mem_cons, List.cons_append] at hc
    rcases hc with hc | rfl | hc | rfl | hc
    · exact (frame.user_chars c hc).2
    · rfl
    · exact hp c hc
    · rfl
    · exact absurd hc List.not_mem_nil
  have hauthority : (frame.user ++ ':' :: p ++ '@' :: frame.place).takeWhile
      (fun c => !endsAuthority .free c) =
        frame.user ++ ':' :: p ++ '@' :: frame.place.takeWhile fun c => !endsAuthority .free c := by
    rw [List.append_cons _ '@', List.takeWhile_append_of_pos hfront, ← List.append_cons]
  rw [behindScheme, password_ofText, hauthority]
  exact password_ofAuthority (fun c hc => (frame.user_chars c hc).1) frame.last

end Net.Url

/-! ### Settings that differ in secrets alone -/

/-- The settings agree in all but the secret for tokens and the password in the address of the
database, which is `p` in the first ones and `q` in the others. -/
structure Settings.DifferInSecrets (s t : Settings) (p q : List Char) : Prop where
  service : s.service = t.service
  maxConnections : s.database.maxConnections = t.database.maxConnections
  minConnections : s.database.minConnections = t.database.minConnections
  ttlMinutes : s.token.ttlMinutes = t.token.ttlMinutes
  passwords : Net.Url.IsPassword p ∧ Net.Url.IsPassword q
  urls : ∃ frame : Net.Url.Frame, s.database.url = frame.fill p ∧ t.database.url = frame.fill q

theorem Settings.DifferInSecrets.database_eq_iff {s t : Settings} {p q : List Char}
    (h : s.DifferInSecrets t p q) : s.database = t.database ↔ p = q := by
  obtain ⟨frame, hs, ht⟩ := h.urls
  constructor
  · intro heq
    exact frame.fill_inj.mp (by rw [← hs, ← ht, heq])
  · rintro rfl
    cases hdb : s.database
    cases hdb' : t.database
    have hmost := h.maxConnections
    have hleast := h.minConnections
    simp_all

/-- **Settings that differ in their secrets alone are shown alike exactly if they have one
password for the database, whatever the secrets for tokens.** -/
theorem shown_alike_iff {s t : Settings} {p q : List Char} (h : s.DifferInSecrets t p q) :
    s.inspect = t.inspect ↔ p = q := by
  rw [Settings.inspect_eq_iff, h.database_eq_iff]
  constructor
  · rintro ⟨-, hpassword, -⟩
    exact hpassword
  · intro hpassword
    exact ⟨h.service, hpassword, h.ttlMinutes⟩

/-- The address of a database on this machine. -/
def localFrame : Net.Url.Frame where
  scheme := "postgres".toList
  user := ['a', 'p', 'p']
  place := "localhost:5432/accounts".toList
  user_chars := by simp [Net.Url.endsAuthority]
  last := by decide

/-- Settings with a secret for tokens and a password for the database. -/
def localSettings (secret : String) (password : List Char) : Settings where
  service := {}
  database := { url := localFrame.fill password }
  token := ⟨secret, standardMinutes⟩

theorem localSettings_differ (secret other : String) {p q : List Char}
    (hp : Net.Url.IsPassword p) (hq : Net.Url.IsPassword q) :
    (localSettings secret p).DifferInSecrets (localSettings other q) p q where
  service := rfl
  maxConnections := rfl
  minConnections := rfl
  ttlMinutes := rfl
  passwords := ⟨hp, hq⟩
  urls := ⟨localFrame, rfl, rfl⟩

/-- With one password for the database another secret for tokens leaves the text as it is. -/
theorem shown_alike_for_secrets :
    (localSettings "s3cret" "hunter2".toList).DifferInSecrets
        (localSettings "other" "hunter2".toList) "hunter2".toList "hunter2".toList ∧
      (localSettings "s3cret" "hunter2".toList).inspect =
        (localSettings "other" "hunter2".toList).inspect := by
  have hdiffer := localSettings_differ "s3cret" "other" (p := "hunter2".toList)
    (q := "hunter2".toList) (by decide) (by decide)
  exact ⟨hdiffer, (shown_alike_iff hdiffer).mpr rfl⟩

/-- The password of the database is shown: with another one the text is another one. -/
theorem password_shown :
    (localSettings "s3cret" "hunter2".toList).DifferInSecrets
        (localSettings "s3cret" "letmein".toList) "hunter2".toList "letmein".toList ∧
      (localSettings "s3cret" "hunter2".toList).inspect ≠
        (localSettings "s3cret" "letmein".toList).inspect := by
  have hdiffer := localSettings_differ "s3cret" "s3cret" (p := "hunter2".toList)
    (q := "letmein".toList) (by decide) (by decide)
  refine ⟨hdiffer, fun h => ?_⟩
  have hsame := hdiffer.database_eq_iff.mp (Settings.inspect_eq_iff.mp h).2.1
  exact absurd hsame (by decide)

end UserAccounts
