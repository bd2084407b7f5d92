/-
# Which addresses are taken

An address is taken if it is a name and a host, with the last `@` between them, and the
host is one of three (`isAddress_iff`): a host name, itself or in its form in ASCII; an
internet address between brackets; or a text that only ends in such an address, itself or
in its form in ASCII.

The first two kinds are plain: nothing in them is a blank or a control character
(`isPlain_of_parts`), because a host name of letters, digits, hyphens and dots cannot
come of anything that is not seen (`Host.toAscii_invisible`). The third kind is loose:
before the brackets there may stand anything but an `@`. Every address that is taken is
plain or loose (`plain_or_loose`).

Key definitions: `IsName`, `IsLiteral`, `EndsInLiteral`, `Parts`, `IsPlain`, `IsLoose`.
Key theorems: `splitAtLastAt_eq_some_iff`, `bracketed?_eq_some_iff`, `isAddress_iff`,
`isPlain_of_parts`, `plain_or_loose`.
-/
import Mathlib.Data.List.TakeDrop
import UserAccounts.Email.Address
import UserAccounts.Proofs.Host.Ascii
import UserAccounts.Proofs.Text.Blank

namespace UserAccounts.Email

open Text (isInvisible span_eq_iff)

/-! ### Kinds of hosts -/

/-- A host name, itself or in its form in ASCII. -/
def IsName (host : List Char) : Prop :=
  isHostName host = true ∨ ∃ ascii, Host.toAscii .unicode13 host = some ascii ∧
    isHostName ascii = true

/-- An internet address between brackets. -/
def IsLiteral (host : List Char) : Prop :=
  ∃ ip, host = '[' :: (ip ++ [']']) ∧ (∀ c ∈ ip, isBracketedChar c = true) ∧
    (Net.Ip.ofText? ip).isSome = true

/-- A text that ends in an internet address between brackets. -/
def EndsInLiteral (host : List Char) : Prop :=
  ∃ front literal, host = front ++ literal ∧ IsLiteral literal

/-- A text that ends in one, itself or in its form in ASCII. -/
def EndsLoosely (host : List Char) : Prop :=
  EndsInLiteral host ∨ ∃ ascii, Host.toAscii .unicode13 host = some ascii ∧ EndsInLiteral ascii

/-- The address is this name, an `@` and this host. -/
structure Parts (email : String) (name host : List Char) : Prop where
  whole : email.toList = name ++ '@' :: host
  last : '@' ∉ host
  nonempty : name ≠ []
  chars : ∀ c ∈ name, isNameChar c = true
  nameLength : name.length ≤ 64
  hostLength : host.length ≤ 255

/-- Nothing in the address is a blank or a control character, and its host is a host name or an
internet address between brackets, as a whole. -/
structure IsPlain (email : String) : Prop where
  seen : ∀ c ∈ email.toList, isInvisible c = false
  parts : ∃ name host, Parts email name host ∧ host ≠ [] ∧ (IsName host ∨ IsLiteral host)

/-- The host of the address is neither of the two, but ends in an internet address between
brackets. -/
def IsLoose (email : String) : Prop :=
  ∃ name host, Parts email name host ∧ ¬ IsName host ∧ ¬ IsLiteral host ∧ EndsLoosely host

/-! ### Taking addresses apart -/

/-- **An address is split at its last `@`.** -/
theorem splitAtLastAt_eq_some_iff {cs name host : List Char} :
    splitAtLastAt cs = some (name, host) ↔ cs = name ++ '@' :: host ∧ '@' ∉ host := by
  unfold splitAtLastAt
  constructor
  · intro h
    split at h
    · cases h
    · rename_i behind c before hspan
      obtain ⟨hcs, hbehind, hstop⟩ := span_eq_iff.mp hspan
      obtain ⟨rfl, rfl⟩ := Prod.mk.inj (Option.some.inj h)
      obtain rfl : c = '@' := by simpa using hstop c rfl
      refine ⟨?_, fun hmem => ?_⟩
      · rw [← List.reverse_inj, hcs]
        simp
      · exact absurd (hbehind '@' (List.mem_reverse.mp hmem)) (by decide)
  · rintro ⟨rfl, hlast⟩
    have hspan : (name ++ '@' :: host).reverse.span (· != '@') =
        (host.reverse, '@' :: name.reverse) := by
      refine span_eq_iff.mpr ⟨by simp, fun c hc => ?_, fun c hc => ?_⟩
      · rw [bne_iff_ne]
        rintro rfl
        exact hlast (List.mem_reverse.mp hc)
      · rw [← Option.some.inj hc]
        rfl
    rw [hspan]
    simp

/-- **What stands between the brackets at the end.** -/
theorem bracketed?_eq_some_iff {cs ip : List Char} :
    bracketed? cs = some ip ↔ ip ≠ [] ∧ (∀ c ∈ ip, isBracketedChar c = true) ∧
      ∃ front, cs = front ++ '[' :: (ip ++ [']']) := by
  unfold bracketed?
  constructor
  · intro h
    split at h
    · rename_i before hcs
      split at h
      · rename_i c inner after hspan
        obtain ⟨hbefore, hchars, -⟩ := span_eq_iff.mp hspan
        have htake : before.takeWhile isBracketedChar = c :: inner := by
          rw [List.span_eq_takeWhile_dropWhile] at hspan
          exact congrArg Prod.fst hspan
        obtain rfl : (c :: inner).reverse = ip := by
          rw [← htake]
          exact Option.some.inj h
        refine ⟨by simp, fun d hd => hchars d (List.mem_reverse.mp hd), after.reverse, ?_⟩
        rw [← List.reverse_inj, hcs, hbefore]
        simp
      · cases h
    · cases h
  · rintro ⟨hne, hchars, front, rfl⟩
    have hreverse : (front ++ '[' :: (ip ++ [']'])).reverse =
        ']' :: (ip.reverse ++ '[' :: front.reverse) := by simp
    have hspan : (ip.reverse ++ '[' :: front.reverse).span isBracketedChar =
        (ip.reverse, '[' :: front.reverse) := by
      refine span_eq_iff.mpr ⟨rfl, fun c hc => hchars c (List.mem_reverse.mp hc), fun c hc => ?_⟩
      rw [← Option.some.inj hc]
      rfl
    have htake : (ip.reverse ++ '[' :: front.reverse).takeWhile isBracketedChar = ip.reverse := by
      rw [List.span_eq_takeWhile_dropWhile] at hspan
      exact congrArg Prod.fst hspan
    obtain ⟨c, inner, hip⟩ : ∃ c inner, ip.reverse = c :: inner :=
      List.exists_cons_of_ne_nil (by simpa using hne)
    rw [hreverse]
    simp only
    rw [htake, hspan, List.reverse_reverse, hip]
    rfl

theorem isHost_iff {host : List Char} :
    isHost host = true ↔ isHostName host = true ∨ EndsInLiteral host := by
  unfold isHost
  rw [Bool.or_eq_true, Option.isSome_iff_exists]
  refine or_congr_right ⟨?_, ?_⟩
  · rintro ⟨address, h⟩
    obtain ⟨ip, hip, haddress⟩ := Option.bind_eq_some_iff.mp h
    obtain ⟨-, hchars, front, rfl⟩ := bracketed?_eq_some_iff.mp hip
    exact ⟨front, _, rfl, ip, rfl, hchars, by rw [haddress]; rfl⟩
  · rintro ⟨front, literal, rfl, ip, rfl, hchars, haddress⟩
    have hne : ip ≠ [] := by
      rintro rfl
      exact absurd haddress (by decide)
    obtain ⟨address, haddress⟩ := Option.isSome_iff_exists.mp haddress
    have hip := bracketed?_eq_some_iff.mpr ⟨hne, hchars, front, rfl⟩
    exact ⟨address, Option.bind_eq_some_iff.mpr ⟨ip, hip, haddress⟩⟩

theorem isHost_or_ascii_iff {host : List Char} :
    (isHost host || (Host.toAscii .unicode13 host).any isHost) = true ↔
      IsName host ∨ EndsLoosely host := by
  rw [Bool.or_eq_true, isHost_iff, Option.any_eq_true]
  simp only [isHost_iff]
  constructor
  · rintro ((h | h) | ⟨ascii, hascii, h | h⟩)
    · exact .inl (.inl h)
    · exact .inr (.inl h)
    · exact .inl (.inr ⟨ascii, hascii, h⟩)
    · exact .inr (.inr ⟨ascii, hascii, h⟩)
  · rintro ((h | ⟨ascii, hascii, h⟩) | h | ⟨ascii, hascii, h⟩)
    · exact .inl (.inl h)
    · exact .inr ⟨ascii, hascii, .inl h⟩
    · exact .inl (.inr h)
    · exact .inr ⟨ascii, hascii, .inr h⟩

/-- **Which addresses are taken.** -/
theorem isAddress_iff {email : String} :
    isAddress email = true ↔
      ∃ name host, Parts email name host ∧ (IsName host ∨ EndsLoosely host) := by
  unfold isAddress
  constructor
  · intro h
    split at h
    · cases h
    · rename_i name host hsplit
      obtain ⟨hwhole, hlast⟩ := splitAtLastAt_eq_some_iff.mp hsplit
      rw [Bool.and_eq_true, isHost_or_ascii_iff] at h
      obtain ⟨hname, hhost⟩ := h
      simp only [Bool.and_eq_true, decide_eq_true_eq, List.all_eq_true, Bool.not_eq_true',
        List.isEmpty_eq_false_iff] at hname
      obtain ⟨⟨⟨hnameLength, hhostLength⟩, hne⟩, hchars⟩ := hname
      exact ⟨name, host, ⟨hwhole, hlast, hne, hchars, hnameLength, hhostLength⟩, hhost⟩
  · rintro ⟨name, host, h, hhost⟩
    rw [splitAtLastAt_eq_some_iff.mpr ⟨h.whole, h.last⟩]
    simp only
    rw [Bool.and_eq_true, isHost_or_ascii_iff]
    refine ⟨?_, hhost⟩
    simp only [Bool.and_eq_true, decide_eq_true_eq, List.all_eq_true, Bool.not_eq_true',
      List.isEmpty_eq_false_iff]
    exact ⟨⟨⟨h.nameLength, h.hostLength⟩, h.nonempty⟩, h.chars⟩

/-! ### What is seen -/

theorem seen_of_isNameChar {c : Char} (h : isNameChar c = true) : isInvisible c = false := by
  unfold isNameChar at h
  rw [Bool.or_eq_true, List.contains_iff_mem] at h
  rcases h with h | h
  · exact Text.isInvisible_of_isAlphanum h
  · have hseen : ".!#$%&'*+/=?^_`\x7b|\x7d~-".toList.all (fun d => !isInvisible d) = true := by
      decide
    simpa using List.all_eq_true.mp hseen c h

theorem seen_of_hexValue? {c : Char} (h : (Text.hexValue? c).isSome = true) :
    isInvisible c = false := by
  unfold Text.hexValue? at h
  split at h
  · rename_i hdigit
    exact Text.isInvisible_of_isAlphanum (by rw [Char.isAlphanum, hdigit, Bool.or_true])
  · split at h
    · exact Text.isInvisible_of_range 'a' 'f' (by decide) (by decide) ‹_›
    · split at h
      · exact Text.isInvisible_of_range 'A' 'F' (by decide) (by decide) ‹_›
      · cases h

theorem seen_of_isBracketedChar {c : Char} (h : isBracketedChar c = true) :
    isInvisible c = false := by
  rw [isBracketedChar, Bool.or_eq_true, Bool.or_eq_true, beq_iff_eq, beq_iff_eq] at h
  rcases h with (h | rfl) | rfl
  · exact seen_of_hexValue? h
  · decide
  · decide

theorem seen_of_isHostName {host : List Char} (h : isHostName host = true) :
    ∀ c ∈ host, isInvisible c = false := by
  intro c hc
  by_cases hdot : c = '.'
  · rw [hdot]
    decide
  · obtain ⟨label, hlabel, hc⟩ := Host.exists_mem_splitOn hdot hc
    have hfits := List.all_eq_true.mp h label hlabel
    simp only [isLabel, Bool.and_eq_true, List.all_eq_true, Bool.or_eq_true, beq_iff_eq] at hfits
    rcases hfits.1.1.2 c hc with hchar | rfl
    · exact Text.isInvisible_of_isAlphanum hchar
    · decide

/-- A character that is not seen would leave one behind in the form in ASCII. -/
theorem IsName.seen {host : List Char} (h : IsName host) : ∀ c ∈ host, isInvisible c = false := by
  rcases h with h | ⟨ascii, hascii, h⟩
  · exact seen_of_isHostName h
  · intro c hc
    cases hinvisible : isInvisible c with
    | false => rfl
    | true =>
      obtain ⟨d, hd, hleft⟩ := Host.toAscii_invisible hascii hinvisible hc
      have hseen := seen_of_isHostName h d hd
      rw [(Text.isAsciiInvisible_iff.mp hleft).2] at hseen
      cases hseen

theorem IsName.ne_nil {host : List Char} (h : IsName host) : host ≠ [] := by
  have hnone : isHostName [] = false := by decide
  have hascii : Host.toAscii .unicode13 [] = some [] := by decide
  rintro rfl
  rcases h with h | ⟨ascii, hsome, h⟩
  · rw [hnone] at h
    cases h
  · obtain rfl : [] = ascii := Option.some.inj (hascii.symm.trans hsome)
    rw [hnone] at h
    cases h

theorem IsLiteral.seen {host : List Char} (h : IsLiteral host) :
    ∀ c ∈ host, isInvisible c = false := by
  obtain ⟨ip, rfl, hchars, -⟩ := h
  simp only [List.mem_cons, List.mem_append, List.not_mem_nil, or_false]
  rintro c (rfl | hc | rfl)
  · decide
  · exact seen_of_isBracketedChar (hchars c hc)
  · decide

theorem isPlain_of_parts {email : String} {name host : List Char} (h : Parts email name host)
    (hhost : IsName host ∨ IsLiteral host) : IsPlain email := by
  have hseen : ∀ c ∈ host, isInvisible c = false := hhost.elim IsName.seen IsLiteral.seen
  have hne : host ≠ [] := by
    rcases hhost with hname | ⟨ip, rfl, -⟩
    · exact hname.ne_nil
    · exact List.cons_ne_nil _ _
  refine ⟨?_, name, host, h, hne, hhost⟩
  rw [h.whole]
  simp only [List.mem_append, List.mem_cons]
  rintro c (hc | rfl | hc)
  · exact seen_of_isNameChar (h.chars c hc)
  · decide
  · exact hseen c hc

/-- **Every address that is taken is plain or loose.** -/
theorem plain_or_loose {email : String} (h : isAddress email = true) :
    IsPlain email ∨ IsLoose email := by
  obtain ⟨name, host, hparts, hhost⟩ := isAddress_iff.mp h
  by_cases hplain : IsName host ∨ IsLiteral host
  · exact .inl (isPlain_of_parts hparts hplain)
  · obtain ⟨hname, hliteral⟩ := not_or.mp hplain
    exact .inr ⟨name, host, hparts, hname, hliteral, hhost.resolve_left hname⟩

end UserAccounts.Email
