/-
# Names that have a form in ASCII

A blank or a control character in a name leaves one of ASCII behind at every step towards
the name's form in ASCII: the mapping does not drop it, composing does not take it up, and
neither reading nor writing Punycode loses it (`toAscii_invisible`). So a name of which
the form in ASCII is seen is seen itself.

Key theorems: `mem_plainLabel`, `mem_asciiLabel`, `toAscii_eq_some`, `toAscii_invisible`.
-/
import UserAccounts.Host.Ascii
import UserAccounts.Proofs.Host.Mapping
import UserAccounts.Proofs.Host.Punycode

namespace UserAccounts.Host

open Text (isInvisible isAsciiInvisible)

/-! ### Lists -/

theorem exists_of_mem_mapM {α β : Type} {f : α → Option β} {as : List α} {bs : List β}
    (h : as.mapM f = some bs) {a : α} (ha : a ∈ as) : ∃ b ∈ bs, f a = some b := by
  induction as generalizing bs with
  | nil => cases ha
  | cons first as ih =>
    rw [List.mapM_cons] at h
    obtain ⟨b, hb, hrest⟩ := Option.bind_eq_some_iff.mp h
    obtain ⟨rest, hmap, hbs⟩ := Option.bind_eq_some_iff.mp hrest
    obtain rfl : b :: rest = bs := Option.some.inj hbs
    rcases List.mem_cons.mp ha with rfl | ha
    · exact ⟨b, List.mem_cons_self, hb⟩
    · obtain ⟨b', hmem, hb'⟩ := ih hmap ha
      exact ⟨b', List.mem_cons_of_mem _ hmem, hb'⟩

theorem mem_intercalate {α : Type} {a d : α} {parts : List (List α)} :
    a ∈ [d].intercalate parts ↔ (a = d ∧ 1 < parts.length) ∨ ∃ part ∈ parts, a ∈ part := by
  induction parts with
  | nil => simp [List.intercalate]
  | cons part parts ih =>
    cases parts with
    | nil => simp [List.intercalate]
    | cons next parts =>
      have hcons : [d].intercalate (part :: next :: parts) =
          part ++ d :: [d].intercalate (next :: parts) := by
        simp [List.intercalate, List.intersperse]
      rw [hcons, List.mem_append, List.mem_cons, ih]
      constructor
      · rintro (h | h | ⟨h, -⟩ | ⟨other, hother, h⟩)
        · exact .inr ⟨part, List.mem_cons_self, h⟩
        · exact .inl ⟨h, by simp⟩
        · exact .inl ⟨h, by simp⟩
        · exact .inr ⟨other, List.mem_cons_of_mem _ hother, h⟩
      · rintro (⟨h, -⟩ | ⟨other, hother, h⟩)
        · exact .inr (.inl h)
        · rcases List.mem_cons.mp hother with rfl | hother
          · exact .inl h
          · exact .inr (.inr (.inr ⟨other, hother, h⟩))

theorem exists_mem_splitOn {c d : Char} (h : c ≠ d) {cs : List Char} (hc : c ∈ cs) :
    ∃ part ∈ cs.splitOn d, c ∈ part := by
  have hjoined : [d].intercalate (cs.splitOn d) = cs := List.intercalate_splitOn d
  rw [← hjoined, mem_intercalate] at hc
  exact hc.resolve_left fun hdot => h hdot.1

theorem mem_joinLabels {c : Char} {label : List Char} {labels : List (List Char)}
    (hlabel : label ∈ labels) (hc : c ∈ label) : c ∈ joinLabels labels :=
  mem_intercalate.mpr (.inr ⟨label, hlabel, hc⟩)

/-! ### Labels -/

theorem decodeLabel_eq_some {edition : Edition} {code label : List Char}
    (h : decodeLabel edition code = some label) : Punycode.decode code = some label := by
  unfold decodeLabel at h
  obtain ⟨decoded, hdecoded, h⟩ := Option.bind_eq_some_iff.mp h
  split at h
  · cases h
  · split at h
    · rw [hdecoded, Option.some.inj h]
    · cases h

section

variable {c : Char} (hc : isAsciiInvisible c = true)

include hc

theorem ne_of_seen {d : Char} (hd : isAsciiInvisible d = false) : c ≠ d := by
  rintro rfl
  rw [hc] at hd
  cases hd

theorem digitValue?_invisible : Punycode.digitValue? c = none := by
  have hrange : ∀ low high : Char, 0x20 < low.toNat → high.toNat < 0x7f →
      ¬ (decide (low ≤ c) && decide (c ≤ high)) = true := by
    intro low high hlow hhigh h
    have hseen := Text.isInvisible_of_range low high hlow hhigh h
    rw [(Text.isAsciiInvisible_iff.mp hc).2] at hseen
    cases hseen
  unfold Punycode.digitValue?
  rw [if_neg (hrange '0' '9' (by decide) (by decide)),
    if_neg (hrange 'A' 'Z' (by decide) (by decide)),
    if_neg (hrange 'a' 'z' (by decide) (by decide))]

theorem mem_plainLabel {edition : Edition} {label plain : List Char}
    (h : plainLabel edition label = some plain) (hmem : c ∈ label) : c ∈ plain := by
  unfold plainLabel at h
  split at h
  · rename_i hmark
    obtain ⟨code, rfl⟩ := List.isPrefixOf_iff_prefix.mp hmark
    rw [List.drop_left] at h
    have hcode : c ∈ code := by
      refine (List.mem_append.mp hmem).resolve_left fun hfront => ?_
      have hseen : encodedMark.all (fun d => !isAsciiInvisible d) = true := by decide
      exact ne_of_seen hc (by simpa using List.all_eq_true.mp hseen c hfront) rfl
    exact Punycode.mem_decode (decodeLabel_eq_some h) hcode (digitValue?_invisible hc)
      (ne_of_seen hc (by decide))
  · split at h
    · rwa [← Option.some.inj h]
    · cases h

theorem mem_asciiLabel {edition : Edition} {label ascii : List Char}
    (h : asciiLabel edition label = some ascii) (hmem : c ∈ label) : c ∈ ascii := by
  unfold asciiLabel at h
  split at h
  · rwa [← Option.some.inj h]
  · split at h
    · cases h
    · obtain ⟨code, hcode, rfl⟩ := Option.map_eq_some_iff.mp h
      exact List.mem_append_right _
        (Punycode.mem_encode hcode hmem (Text.isAsciiInvisible_iff.mp hc).1)

end

/-! ### Names -/

/-- The steps to the form in ASCII. -/
theorem toAscii_eq_some {edition : Edition} {name ascii : List Char}
    (h : toAscii edition name = some ascii) :
    ∃ kept plain labels, mapped edition name = some kept ∧
      ((Text.nfc kept).splitOn '.').mapM (plainLabel edition) = some plain ∧
      ((joinLabels plain).splitOn '.').mapM (asciiLabel edition) = some labels ∧
      ascii = joinLabels labels := by
  unfold toAscii at h
  obtain ⟨kept, hkept, h⟩ := Option.bind_eq_some_iff.mp h
  obtain ⟨plain, hplain, h⟩ := Option.bind_eq_some_iff.mp h
  simp only at h
  split at h
  · cases h
  · obtain ⟨labels, hlabels, h⟩ := Option.bind_eq_some_iff.mp h
    exact ⟨kept, plain, labels, hkept, hplain, hlabels, (Option.some.inj h).symm⟩

/-- **What is not seen in a name leaves something that is not seen in its form in ASCII.** -/
theorem toAscii_invisible {name ascii : List Char} (h : toAscii .unicode13 name = some ascii)
    {c : Char} (hc : isInvisible c = true) (hmem : c ∈ name) :
    ∃ d ∈ ascii, isAsciiInvisible d = true := by
  obtain ⟨kept, plain, labels, hkept, hplain, hlabels, rfl⟩ := toAscii_eq_some h
  obtain ⟨d, hd, hinvisible⟩ := mapped_invisible hc hmem hkept
  have hdot : d ≠ '.' := ne_of_seen hinvisible (by decide)
  obtain ⟨part, hpart, hd⟩ := exists_mem_splitOn hdot (Text.mem_nfc hinvisible hd)
  obtain ⟨label, hlabel, hread⟩ := exists_of_mem_mapM hplain hpart
  have hd := mem_joinLabels hlabel (mem_plainLabel hinvisible hread hd)
  obtain ⟨part, hpart, hd⟩ := exists_mem_splitOn hdot hd
  obtain ⟨label, hlabel, hwritten⟩ := exists_of_mem_mapM hlabels hpart
  exact ⟨d, mem_joinLabels hlabel (mem_asciiLabel hinvisible hwritten hd), hinvisible⟩

end UserAccounts.Host
