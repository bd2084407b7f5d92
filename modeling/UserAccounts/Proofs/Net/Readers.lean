/-
# How far readers of addresses look

The readers of internet addresses take what they need from the front of a text and leave
the rest as it is. A mark that stands in no address stops them: what they find in front
of the mark does not depend on what stands behind it (`StopsAt`). A colon stops the reader
of IPv4 addresses, and the bracket that closes stops that of IPv6 addresses, so an address
with a port falls into parts that are read on their own.

Key definitions: `StopsAt`.
Key theorems: `readV4_stopsAt`, `readV6_stopsAt`, `readZone_stopsAt`.
-/
import Mathlib.Data.List.Infix
import UserAccounts.Net.Address

namespace UserAccounts.Net

/-- The reader leaves an end of the text, and looks no further than the mark. -/
structure StopsAt {α : Type} (mark : Char) (read : List Char → Option (α × List Char)) : Prop where
  suffix {cs rest : List Char} {a : α} (h : read cs = some (a, rest)) : rest <:+ cs
  ahead (cs more : List Char) :
    read (cs ++ mark :: more) = (read cs).map fun x => (x.1, x.2 ++ mark :: more)

/-- The character stands in no number. -/
def IsMark (c : Char) : Prop :=
  Text.hexValue? c = none

instance (c : Char) : Decidable (IsMark c) :=
  inferInstanceAs (Decidable (Text.hexValue? c = none))

variable {α β : Type} {mark : Char} {cs more rest : List Char}

/-! ### Readers made of readers -/

theorem StopsAt.pure (a : α) : StopsAt mark fun cs => some (a, cs) where
  suffix h := by
    cases h
    exact List.suffix_rfl
  ahead _ _ := rfl

theorem StopsAt.bind {read : List Char → Option (α × List Char)}
    {next : α × List Char → Option (β × List Char)} (hread : StopsAt mark read)
    (hnext : ∀ a, StopsAt mark fun cs => next (a, cs)) :
    StopsAt mark fun cs => read cs >>= next where
  suffix h := by
    obtain ⟨⟨a, rest⟩, hfirst, hsecond⟩ := Option.bind_eq_some_iff.mp h
    exact ((hnext a).suffix hsecond).trans (hread.suffix hfirst)
  ahead cs more := by
    show (read (cs ++ mark :: more)).bind next = ((read cs).bind next).map _
    rw [hread.ahead]
    cases read cs with
    | none => rfl
    | some x => exact (hnext x.1).ahead x.2 more

theorem readChar_eq_some_iff {c : Char} : readChar c cs = some rest ↔ cs = c :: rest := by
  cases cs with
  | nil => simp [readChar]
  | cons d cs =>
    by_cases h : d = c
    · simp [readChar, h]
    · simp [readChar, h]

theorem readChar_ahead {c : Char} (h : c ≠ mark) (cs more : List Char) :
    readChar c (cs ++ mark :: more) = (readChar c cs).map (· ++ mark :: more) := by
  cases cs with
  | nil => simp [readChar, h.symm]
  | cons d cs =>
    by_cases hd : d = c
    · simp [readChar, hd]
    · simp [readChar, hd]

theorem StopsAt.behind {c : Char} {next : List Char → Option (β × List Char)} (hc : c ≠ mark)
    (hnext : StopsAt mark next) : StopsAt mark fun cs => readChar c cs >>= next where
  suffix h := by
    obtain ⟨rest, hfirst, hsecond⟩ := Option.bind_eq_some_iff.mp h
    rw [readChar_eq_some_iff.mp hfirst]
    exact (hnext.suffix hsecond).trans (List.suffix_cons c rest)
  ahead cs more := by
    show (readChar c (cs ++ mark :: more)).bind next = ((readChar c cs).bind next).map _
    rw [readChar_ahead hc]
    cases readChar c cs with
    | none => rfl
    | some rest => exact hnext.ahead rest more

/-! ### Numbers -/

theorem digitRun_of_isMark {base : Nat} (h : IsMark mark) :
    digitRun base (mark :: more) = ([], mark :: more) := by
  unfold IsMark at h
  simp [digitRun, h]

theorem digitRun_suffix (base : Nat) (cs : List Char) : (digitRun base cs).2 <:+ cs := by
  fun_induction digitRun base cs with
  | case1 => exact List.suffix_rfl
  | case2 c cs d hd ds rest hrun ih =>
    rw [hrun] at ih
    exact ih.trans (List.suffix_cons c cs)
  | case3 c cs hd => exact List.suffix_rfl

theorem digitRun_ahead {base : Nat} (h : IsMark mark) (cs more : List Char) :
    digitRun base (cs ++ mark :: more) =
      ((digitRun base cs).1, (digitRun base cs).2 ++ mark :: more) := by
  fun_induction digitRun base cs with
  | case1 => exact digitRun_of_isMark h
  | case2 c cs d hd ds rest hrun ih =>
    rw [hrun] at ih
    rw [List.cons_append, digitRun, hd]
    simp only [ih]
  | case3 c cs hd =>
    rw [List.cons_append, digitRun, hd]

/-- A number is taken from the run of digits at the front. -/
theorem stopsAt_digits {base : Nat} (bad : List Nat → Bool) (h : IsMark mark) :
    StopsAt mark fun cs =>
      if bad (digitRun base cs).1 then none
      else some (numeral base (digitRun base cs).1, (digitRun base cs).2) where
  suffix {cs _ _} hread := by
    split at hread
    · cases hread
    · cases hread
      exact digitRun_suffix base cs
  ahead cs more := by
    rw [digitRun_ahead h]
    by_cases hbad : bad (digitRun base cs).1
    · simp only [if_pos hbad, Option.map_none]
    · simp only [if_neg hbad, Option.map_some]

theorem readOctet_stopsAt (h : IsMark mark) : StopsAt mark readOctet :=
  stopsAt_digits (fun ds => ds.isEmpty || 3 < ds.length ||
    (ds.head? == some 0 && 1 < ds.length) || 255 < numeral 10 ds) h

theorem readGroup_stopsAt (h : IsMark mark) : StopsAt mark readGroup :=
  stopsAt_digits (fun ds => ds.isEmpty || 4 < ds.length) h

theorem readUpTo_stopsAt {high : Nat} (h : IsMark mark) : StopsAt mark (readUpTo high) :=
  stopsAt_digits (fun ds => ds.isEmpty || high < numeral 10 ds) h

/-! ### Addresses -/

theorem readV4_stopsAt (h : IsMark mark) (hdot : '.' ≠ mark) : StopsAt mark readV4 :=
  (readOctet_stopsAt h).bind fun _ => .behind hdot <|
    (readOctet_stopsAt h).bind fun _ => .behind hdot <|
      (readOctet_stopsAt h).bind fun _ => .behind hdot <|
        (readOctet_stopsAt h).bind fun _ => .pure _

section

variable {limit g : Nat} {first : Bool} {inner : List Char}

theorem readGroups_of_no_colon (h : (if first then some cs else readChar ':' cs) = none) :
    readGroups (limit + 1) first cs = ([], false, cs) := by
  simp only [readGroups, h]

theorem readGroups_of_v4 {octets : List Nat}
    (h : (if first then some cs else readChar ':' cs) = some inner)
    (hv4 : (if 0 < limit then readV4 inner else none) = some (octets, rest)) :
    readGroups (limit + 1) first cs = (groupsOfOctets octets, true, rest) := by
  simp only [readGroups, h, hv4]

theorem readGroups_of_no_group (h : (if first then some cs else readChar ':' cs) = some inner)
    (hv4 : (if 0 < limit then readV4 inner else none) = none) (hgroup : readGroup inner = none) :
    readGroups (limit + 1) first cs = ([], false, cs) := by
  simp only [readGroups, h, hv4, hgroup]

theorem readGroups_cons (h : (if first then some cs else readChar ':' cs) = some inner)
    (hv4 : (if 0 < limit then readV4 inner else none) = none)
    (hgroup : readGroup inner = some (g, rest)) :
    readGroups (limit + 1) first cs = (g :: (readGroups limit false rest).1,
      (readGroups limit false rest).2.1, (readGroups limit false rest).2.2) := by
  simp only [readGroups, h, hv4, hgroup]

end

theorem startOfGroup_suffix {first : Bool} {inner : List Char}
    (h : (if first then some cs else readChar ':' cs) = some inner) : inner <:+ cs := by
  cases first with
  | true =>
    cases h
    exact List.suffix_rfl
  | false =>
    rw [readChar_eq_some_iff.mp h]
    exact List.suffix_cons ':' inner

theorem startOfGroup_ahead (hcolon : ':' ≠ mark) (first : Bool) (cs more : List Char) :
    (if first then some (cs ++ mark :: more) else readChar ':' (cs ++ mark :: more)) =
      (if first then some cs else readChar ':' cs).map (· ++ mark :: more) := by
  cases first with
  | true => rfl
  | false => exact readChar_ahead hcolon cs more

/-- The groups leave an end of the text, and the reader looks no further than the mark. -/
theorem readGroups_stopsAt (h : IsMark mark) (hdot : '.' ≠ mark) (hcolon : ':' ≠ mark)
    (limit : Nat) (first : Bool) (cs : List Char) :
    (readGroups limit first cs).2.2 <:+ cs ∧ ∀ more,
      readGroups limit first (cs ++ mark :: more) = ((readGroups limit first cs).1,
        (readGroups limit first cs).2.1, (readGroups limit first cs).2.2 ++ mark :: more) := by
  induction limit generalizing first cs with
  | zero => exact ⟨List.suffix_rfl, fun _ => rfl⟩
  | succ limit ih =>
    have hstart := startOfGroup_ahead hcolon first cs
    cases hinner : if first then some cs else readChar ':' cs with
    | none =>
      rw [readGroups_of_no_colon hinner]
      exact ⟨List.suffix_rfl, fun more =>
        readGroups_of_no_colon ((hstart more).trans (by rw [hinner, Option.map_none]))⟩
    | some inner =>
      have hsuffix := startOfGroup_suffix hinner
      have hinner' := fun more => (hstart more).trans (congrArg _ hinner)
      have hv4' : ∀ more, (if 0 < limit then readV4 (inner ++ mark :: more) else none) =
          (if 0 < limit then readV4 inner else none).map fun x => (x.1, x.2 ++ mark :: more) := by
        intro more
        split
        · exact (readV4_stopsAt h hdot).ahead inner more
        · rfl
      cases hv4 : if 0 < limit then readV4 inner else none with
      | some found =>
        obtain ⟨octets, rest⟩ := found
        rw [readGroups_of_v4 hinner hv4]
        refine ⟨?_, fun more =>
          readGroups_of_v4 (hinner' more) ((hv4' more).trans (by rw [hv4]; rfl))⟩
        split at hv4
        · exact ((readV4_stopsAt h hdot).suffix hv4).trans hsuffix
        · cases hv4
      | none =>
        have hnone := fun more => (hv4' more).trans (congrArg _ hv4)
        have hgroup' := (readGroup_stopsAt h).ahead inner
        cases hgroup : readGroup inner with
        | none =>
          rw [readGroups_of_no_group hinner hv4 hgroup]
          exact ⟨List.suffix_rfl, fun more => readGroups_of_no_group (hinner' more) (hnone more)
            ((hgroup' more).trans (by rw [hgroup, Option.map_none]))⟩
        | some found =>
          obtain ⟨g, rest⟩ := found
          obtain ⟨hleft, hahead⟩ := ih false rest
          rw [readGroups_cons hinner hv4 hgroup]
          refine ⟨(hleft.trans ((readGroup_stopsAt h).suffix hgroup)).trans hsuffix, fun more => ?_⟩
          rw [readGroups_cons (hinner' more) (hnone more)
            ((hgroup' more).trans (by rw [hgroup, Option.map_some])), hahead]

theorem readV6_stopsAt (h : IsMark mark) (hdot : '.' ≠ mark) (hcolon : ':' ≠ mark) :
    StopsAt mark readV6 := by
  have hgroups := readGroups_stopsAt h hdot hcolon
  -- what stands behind the gap, if there is one
  have hgap : ∀ front : List Nat, StopsAt mark fun cs => readChar ':' cs >>= fun cs =>
      readChar ':' cs >>= fun cs =>
        some (front ++ List.replicate
          (8 - front.length - (readGroups (7 - front.length) true cs).1.length) 0 ++
            (readGroups (7 - front.length) true cs).1,
          (readGroups (7 - front.length) true cs).2.2) := by
    intro front
    refine .behind hcolon (.behind hcolon ⟨fun {cs _ _} hread => ?_, fun cs more => ?_⟩)
    · cases hread
      exact (hgroups _ true cs).1
    · simp only [(hgroups _ true cs).2 more]
      rfl
  refine ⟨fun {cs rest groups} hread => ?_, fun cs more => ?_⟩
  · have hleft := (hgroups 8 true cs).1
    simp only [readV6] at hread
    split at hread
    · cases hread
      exact hleft
    · split at hread
      · cases hread
      · exact ((hgap _).suffix hread).trans hleft
  · simp only [readV6, (hgroups 8 true cs).2 more]
    split
    · rfl
    · split
      · rfl
      · exact (hgap _).ahead _ more

/-- A zone leaves an end of the text, and its reader looks no further than the mark. -/
theorem readZone_stopsAt (h : IsMark mark) (hpercent : '%' ≠ mark) (cs : List Char) :
    (readZone cs).2 <:+ cs ∧ ∀ more,
      readZone (cs ++ mark :: more) = ((readZone cs).1, (readZone cs).2 ++ mark :: more) := by
  have hzone : StopsAt mark fun cs => readChar '%' cs >>= readUpTo 0xFFFFFFFF :=
    .behind hpercent (readUpTo_stopsAt h)
  have hahead : ∀ more, (readChar '%' (cs ++ mark :: more)).bind (readUpTo 0xFFFFFFFF) =
      ((readChar '%' cs).bind (readUpTo 0xFFFFFFFF)).map fun x => (x.1, x.2 ++ mark :: more) :=
    hzone.ahead cs
  unfold readZone
  simp only [hahead]
  cases hfound : (readChar '%' cs).bind (readUpTo 0xFFFFFFFF) with
  | none => exact ⟨List.suffix_rfl, fun _ => rfl⟩
  | some found => exact ⟨hzone.suffix hfound, fun _ => rfl⟩

end UserAccounts.Net
