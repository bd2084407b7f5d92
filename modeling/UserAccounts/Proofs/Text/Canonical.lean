/-
# What composing leaves alone

A blank or a control character of ASCII is no part of what any character decomposes into,
and does not decompose itself (`decompositions_visible`). So nothing is composed with it,
and wherever one stands in a text, it stands in the text's canonical composition
(`mem_nfc`).

Key definition: `Decomposition.isVisible`.
Key theorems: `decompositions_visible`, `compose?_eq_none`, `mem_composeFrom`, `mem_nfc`.
-/
import UserAccounts.Proofs.Text.Blank
import UserAccounts.Proofs.Text.Tables
import UserAccounts.Text.Canonical

namespace UserAccounts.Text

/-! ### The table -/

/-- An entry for a character outside ASCII, in parts that are seen. -/
def Decomposition.isVisible (entry : Decomposition) : Bool :=
  0x80 ≤ entry.char.toNat && entry.parts.all fun part => !isAsciiInvisible part

theorem decompositions_visible : decompositions.all Decomposition.isVisible = true := by
  have hlines : ∀ {lines : List (List Char)}, Spelled [] decompositionLines lines →
      (Decomposition.ofWords 0 (lines.flatMap lineWords)).all Decomposition.isVisible = true →
      decompositions.all Decomposition.isVisible = true := by
    intro lines hspelled hall
    rw [decompositions, hspelled.flatMap_words, List.flatMap_nil, List.append_nil,
      List.all_toArray]
    exact hall
  apply hlines
  case a =>
    unfold decompositionLines
    repeat apply Spelled.cons
    apply Spelled.nil
  case a => decide +kernel

theorem isVisible_of_mem {entry : Decomposition} (h : entry ∈ decompositions) :
    0x80 ≤ entry.char.toNat ∧ ∀ part ∈ entry.parts, isAsciiInvisible part = false := by
  have hvisible := Array.all_eq_true_iff_forall_mem.mp decompositions_visible entry h
  rw [Decomposition.isVisible, Bool.and_eq_true, decide_eq_true_eq, List.all_eq_true] at hvisible
  exact ⟨hvisible.1, fun part hpart => by simpa using hvisible.2 part hpart⟩

/-! ### Taking apart -/

theorem Decomposition.find?_eq_none {entries : Array Decomposition} {c : Char}
    (h : ∀ entry ∈ entries, entry.char ≠ c) (places : Array Nat) :
    Decomposition.find? entries places c = none := by
  unfold Decomposition.find?
  cases rank places c.toNat with
  | zero => rfl
  | succ k =>
    rw [Option.filter_eq_none_iff]
    intro entry hentry
    simpa using h entry (Array.mem_of_getElem? hentry)

theorem decomposition?_of_ascii {c : Char} (h : c.toNat < 0x80) : decomposition? c = none := by
  refine Decomposition.find?_eq_none (fun entry hentry hchar => ?_) decompositionPlaces
  have hplace := (isVisible_of_mem hentry).1
  rw [hchar] at hplace
  omega

theorem decomposeWithin_of_none {step? : Char → Option Decomposition} {c : Char}
    (hparts : hangulParts? c = none) (hentry : step? c = none) (depth : Nat) :
    decomposeWithin step? depth c = [c] := by
  cases depth with
  | zero => rfl
  | succ depth => rw [decomposeWithin, hparts, hentry]

theorem decompose_of_ascii {c : Char} (h : c.toNat < 0x80) : decompose c = [c] := by
  have hparts : hangulParts? c = none := by
    unfold hangulParts?
    simp only
    rw [if_neg (by simp; omega)]
  exact decomposeWithin_of_none hparts (decomposition?_of_ascii h) 4

/-! ### Putting marks in order -/

theorem mem_insertMark {c d : Char} {run : List Char} :
    d ∈ insertMark c run ↔ d = c ∨ d ∈ run := by
  induction run with
  | nil => simp [insertMark]
  | cons e run ih =>
    rw [insertMark]
    split
    · rw [List.mem_cons, ih, List.mem_cons, or_left_comm]
    · rw [List.mem_cons]

theorem mem_orderedFrom {c : Char} {cs run done : List Char} :
    c ∈ orderedFrom cs run done ↔ c ∈ cs ∨ c ∈ run ∨ c ∈ done := by
  fun_induction orderedFrom cs run done with
  | case1 run done => simp [or_comm]
  | case2 d cs run done hclass ih => simp [ih, or_assoc, or_left_comm]
  | case3 d cs run done hclass ih => simp [ih, mem_insertMark, or_assoc, or_left_comm]

theorem mem_ordered {c : Char} {cs : List Char} : c ∈ ordered cs ↔ c ∈ cs := by
  rw [ordered, mem_orderedFrom]
  simp

/-! ### Putting together -/

theorem hangulCompose?_of_ascii {a b : Char} (h : a.toNat < 0x80 ∨ b.toNat < 0x80) :
    hangulCompose? a b = none := by
  unfold hangulCompose?
  simp only
  rw [if_neg (by simp; omega), if_neg (by simp; omega)]

section

variable {c : Char} (hc : isAsciiInvisible c = true)

include hc

/-- Nothing is composed with a character that is not seen. -/
theorem compose?_eq_none {a b : Char} (h : a = c ∨ b = c) : compose? a b = none := by
  have hascii := (isAsciiInvisible_iff.mp hc).1
  have hhangul : hangulCompose? a b = none := hangulCompose?_of_ascii (by
    rcases h with rfl | rfl
    · exact .inl hascii
    · exact .inr hascii)
  have hentry : compositions.find? (fun d => d.parts == [a, b]) = none := by
    rw [Array.find?_eq_none]
    intro entry hentry hparts
    rw [beq_iff_eq] at hparts
    have hpart : c ∈ entry.parts := by
      rw [hparts]
      rcases h with rfl | rfl <;> simp
    have hvisible := (isVisible_of_mem (Array.mem_filter.mp hentry).1).2 c hpart
    rw [hc] at hvisible
    cases hvisible
  rw [compose?, hhangul, hentry]
  rfl

/-- Such a character stays where it is while others are composed. -/
theorem mem_composeFrom {cs run done : List Char} {starter : Option Char}
    (h : c ∈ cs ∨ starter = some c ∨ c ∈ run ∨ c ∈ done) :
    c ∈ composeFrom cs starter run done := by
  fun_induction composeFrom cs starter run done with
  | case1 starter run done =>
    rcases h with h | rfl | h | h
    · cases h
    · simp
    · simp [h]
    · simp [h]
  | case2 d cs run done hclass ih =>
    refine ih ?_
    simpa [or_comm, or_assoc, or_left_comm, eq_comm] using h
  | case3 d cs run done hclass ih =>
    refine ih ?_
    simpa [or_comm, or_assoc, or_left_comm, eq_comm] using h
  | case4 d cs s run done blocked p hcomposed ih =>
    -- The two that are composed are seen, so neither is the character.
    have hpair : compose? s d = some p := by
      split at hcomposed
      · cases hcomposed
      · exact hcomposed
    have hne : ∀ e, e = s ∨ e = d → c ≠ e := by
      rintro e he rfl
      rw [compose?_eq_none hc (he.imp Eq.symm Eq.symm)] at hpair
      cases hpair
    refine ih ?_
    rcases h with h | h | h
    · exact .inl ((List.mem_cons.mp h).resolve_left (hne d (.inr rfl)))
    · exact absurd (Option.some.inj h).symm (hne s (.inl rfl))
    · exact .inr (.inr h)
  | case5 d cs s run done blocked hcomposed hclass ih =>
    refine ih ?_
    simp only [List.mem_cons, List.mem_append, Option.some.injEq] at h ⊢
    rcases h with (rfl | h) | rfl | h | h <;> simp [*]
  | case6 d cs s run done blocked hcomposed hclass ih =>
    refine ih ?_
    simp only [List.mem_cons, Option.some.injEq] at h ⊢
    rcases h with (rfl | h) | rfl | h | h <;> simp [*]

/-- **Composing leaves the characters of ASCII that are not seen.** -/
theorem mem_nfc {cs : List Char} (h : c ∈ cs) : c ∈ nfc cs := by
  have hascii := (isAsciiInvisible_iff.mp hc).1
  refine mem_composeFrom hc (.inl ?_)
  rw [mem_ordered, List.mem_flatMap]
  exact ⟨c, h, by rw [decompose_of_ascii hascii]; exact List.mem_singleton_self c⟩

end

end UserAccounts.Text
