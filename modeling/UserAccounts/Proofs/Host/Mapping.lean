/-
# What the mapping makes of blanks and control characters

A name is mapped to what is made of its characters, one after another (`exists_made`). A
blank or a control character is never dropped: in ASCII it is kept, and otherwise refused
or replaced by a text with a blank of ASCII in it (`treatments_invisible`). So if there is
one in a name, there is one of ASCII in what the name is mapped to (`mapped_invisible`).

Key definitions: `invisiblePoints`, `Treatment.chars?`, `Treatment.showsInvisible`.
Key theorems: `exists_made`, `treatments_invisible`, `mapped_invisible`.
-/
import UserAccounts.Host.Mapping
import UserAccounts.Proofs.Text.Canonical

namespace UserAccounts

namespace Text

/-- The code points of blanks and control characters. -/
def invisiblePoints : List Nat :=
  List.range' 0 0x21 ++ List.range' 0x7f 0x22 ++ [0x1680] ++ List.range' 0x2000 0xb ++
    [0x2028, 0x2029, 0x202f, 0x205f, 0x3000]

theorem mem_invisiblePoints {c : Char} (h : isInvisible c = true) : c.toNat ∈ invisiblePoints := by
  simp only [isInvisible, isBlank, isControl, Bool.or_eq_true, Bool.and_eq_true,
    decide_eq_true_eq, beq_iff_eq] at h
  simp only [invisiblePoints, List.mem_append, List.mem_range'_1, List.mem_cons,
    List.not_mem_nil, or_false]
  omega

end Text

namespace Host

open Text (isInvisible isAsciiInvisible)

/-- What a treatment makes of a character, unless it refuses it. -/
def Treatment.chars? (c : Char) : Treatment → Option (List Char)
  | .keep => some [c]
  | .drop => some []
  | .replace text => some text
  | .refuse => none

theorem mapped_cons (edition : Edition) (c : Char) (cs : List Char) :
    mapped edition (c :: cs) = ((treatment edition c).chars? c).bind fun made =>
      (mapped edition cs).map (made ++ ·) := by
  rw [mapped]
  cases treatment edition c with
  | keep | replace => rfl
  | drop => simp [Treatment.chars?]
  | refuse => rfl

/-- What is made of a character stands in the mapped name. -/
theorem exists_made {edition : Edition} {c : Char} {cs name : List Char} (hc : c ∈ cs)
    (h : mapped edition cs = some name) :
    ∃ made, (treatment edition c).chars? c = some made ∧ ∀ d ∈ made, d ∈ name := by
  induction cs generalizing name with
  | nil => cases hc
  | cons first cs ih =>
    rw [mapped_cons] at h
    obtain ⟨made, hmade, h⟩ := Option.bind_eq_some_iff.mp h
    obtain ⟨rest, hrest, rfl⟩ := Option.map_eq_some_iff.mp h
    rcases List.mem_cons.mp hc with rfl | hc
    · exact ⟨made, hmade, fun d hd => List.mem_append_left rest hd⟩
    · obtain ⟨other, hother, hin⟩ := ih hc hrest
      exact ⟨other, hother, fun d hd => List.mem_append_right made (hin d hd)⟩

/-- What a table says of a blank or a control character: it is refused, or one of ASCII comes of
it. -/
def Treatment.showsInvisible (n : Nat) : Option Treatment → Bool
  | none | some .refuse => true
  | some .keep => n < 0x80
  | some .drop => false
  | some (.replace text) => text.any isAsciiInvisible

theorem treatments_invisible {c : Char} (h : isInvisible c = true) :
    Treatment.showsInvisible c.toNat (treatments.get? c) = true := by
  have hsorted : Text.invisiblePoints.Pairwise (· ≤ ·) := by decide
  have hlines : ∀ {rest : List String} {lines : List (List Char)},
      Text.Spelled rest treatmentLines lines →
      Text.holdsAlong Treatment.showsInvisible 0 none
        ((lines.flatMap Text.lineWords).map Treatment.ofWord) Text.invisiblePoints = true →
      Treatment.showsInvisible c.toNat (treatments.get? c) = true :=
    fun hspelled hfound => hspelled.get?_holds hsorted hfound (Text.mem_invisiblePoints h)
  apply hlines
  case a =>
    unfold treatmentLines
    iterate 150 apply Text.Spelled.cons
    exact Text.Spelled.nil
  case a => decide +kernel

/-- The earlier edition refuses more, and replaces one character that is seen. -/
theorem treatment_invisible {c : Char} (h : isInvisible c = true) :
    Treatment.showsInvisible c.toNat (some (treatment .unicode13 c)) = true := by
  have htable := treatments_invisible h
  have hsharp : ¬ (decide (Edition.unicode13 = .unicode13) && c == '\u1e9e') = true := by
    intro hsharp
    obtain rfl : c = '\u1e9e' := by simpa using hsharp
    exact absurd h (by decide)
  unfold treatment
  rw [if_neg hsharp]
  split
  · rfl
  · cases hvalue : treatments.get? c with
    | none => rfl
    | some value => rwa [hvalue] at htable

/-- **No blank and no control character is lost by the mapping.** If there is one in a name, there
is one of ASCII in what the name is mapped to. -/
theorem mapped_invisible {c : Char} (h : isInvisible c = true) {cs name : List Char} (hc : c ∈ cs)
    (hname : mapped .unicode13 cs = some name) : ∃ d ∈ name, isAsciiInvisible d = true := by
  have hshown := treatment_invisible h
  obtain ⟨made, hmade, hin⟩ := exists_made hc hname
  suffices hsome : ∃ d ∈ made, isAsciiInvisible d = true by
    obtain ⟨d, hd, hinvisible⟩ := hsome
    exact ⟨d, hin d hd, hinvisible⟩
  cases htreatment : treatment .unicode13 c with
  | keep =>
    rw [htreatment, Treatment.showsInvisible, decide_eq_true_eq] at hshown
    rw [htreatment] at hmade
    obtain rfl := Option.some.inj hmade
    exact ⟨c, List.mem_singleton_self c, Text.isAsciiInvisible_iff.mpr ⟨hshown, h⟩⟩
  | drop =>
    rw [htreatment] at hshown
    cases hshown
  | replace text =>
    rw [htreatment, Treatment.showsInvisible, List.any_eq_true] at hshown
    rw [htreatment] at hmade
    obtain rfl := Option.some.inj hmade
    exact hshown
  | refuse =>
    rw [htreatment] at hmade
    cases hmade

end Host

end UserAccounts
