/-
# Internet addresses that are read as they are written

An address is written in one standard text and this text is read as the address
(`Ip.ofText?_toText`): the four numbers of an IPv4 address, and the eight groups of an
IPv6 address, whether all of them are written, a run of zeros is left out, or the last two
are written as an IPv4 address.

Key definitions: `Ip.WellFormed`.
Key theorems: `readV4_dotted`, `readGroups_colons`, `longestZeros_spec`, `readV6_v6Text`,
`Ip.ofText?_toText`.
-/
import UserAccounts.Proofs.Net.Readers
import UserAccounts.Proofs.Text.Radix

namespace UserAccounts.Net

open Text (decimal hexLower)

def Ip.WellFormed : Ip → Prop
  | .v4 octets => octets.length = 4 ∧ ∀ octet ∈ octets, octet < 256
  | .v6 groups => groups.length = 8 ∧ ∀ group ∈ groups, group < 65536

/-! ### Numbers -/

theorem digitRun_map {base : Nat} (hbase : base ≤ 16) {digits : List Nat}
    (h : ∀ d ∈ digits, d < base) : digitRun base (digits.map Nat.digitChar) = (digits, []) := by
  induction digits with
  | nil => rfl
  | cons d digits ih =>
    obtain ⟨hd, hdigits⟩ := List.forall_mem_cons.mp h
    have hvalue : (Text.hexValue? d.digitChar).filter (· < base) = some d := by
      rw [Text.hexValue?_digitChar (by omega)]
      simp [hd]
    rw [List.map_cons, digitRun, hvalue]
    simp only [ih hdigits]

theorem digitRun_toDigits {base : Nat} (hlow : 1 < base) (hhigh : base ≤ 16) (n : Nat) :
    ∃ digits, digitRun base (Nat.toDigits base n) = (digits, []) ∧ digits ≠ [] ∧
      digits.length = (Nat.toDigits base n).length ∧
      (digits.head? = some 0 → digits = [0]) ∧ numeral base digits = n := by
  obtain ⟨digits, hwritten, hne, hdigits, hhead, hvalue⟩ := Text.exists_digits hlow n
  refine ⟨digits, ?_, hne, ?_, hhead, hvalue⟩
  · rw [hwritten, digitRun_map hhigh hdigits]
  · rw [hwritten, List.length_map]

theorem readOctet_decimal {n : Nat} (h : n < 256) : readOctet (decimal n) = some (n, []) := by
  obtain ⟨digits, hrun, hne, hlength, hhead, hvalue⟩ :=
    digitRun_toDigits (show 1 < 10 by decide) (by decide) n
  have hshort : digits.length ≤ 3 :=
    hlength.trans_le ((Nat.length_toDigits_le_iff (by decide) (by decide)).mpr (by omega))
  have hlone : digits.head? = some 0 → digits.length ≤ 1 := by
    intro hzero
    rw [hhead hzero]
    exact Nat.le_refl 1
  unfold readOctet decimal
  rw [hrun]
  simp only [hvalue]
  rw [if_neg]
  simp only [List.isEmpty_iff, hne, Bool.or_eq_true, Bool.and_eq_true, decide_eq_true_eq,
    beq_iff_eq, false_or]
  rintro ((hlong | ⟨hzero, hmore⟩) | hlarge)
  · omega
  · have := hlone hzero
    omega
  · omega

theorem readGroup_hexLower {n : Nat} (h : n < 65536) : readGroup (hexLower n) = some (n, []) := by
  obtain ⟨digits, hrun, hne, hlength, -, hvalue⟩ :=
    digitRun_toDigits (show 1 < 16 by decide) (by decide) n
  have hshort : digits.length ≤ 4 :=
    hlength.trans_le ((Nat.length_toDigits_le_iff (by decide) (by decide)).mpr (by omega))
  unfold readGroup hexLower
  rw [hrun]
  simp only [hvalue]
  rw [if_neg]
  simp [hne, hshort]

/-! ### IPv4 addresses -/

theorem readV4_dotted {octets : List Nat} (h : (Ip.v4 octets).WellFormed) :
    readV4 (dotted octets) = some (octets, []) := by
  obtain ⟨hlength, hlow⟩ := h
  obtain ⟨a, b, c, d, rfl⟩ : ∃ a b c d, octets = [a, b, c, d] := by
    match octets, hlength with
    | [a, b, c, d], _ => exact ⟨a, b, c, d, rfl⟩
  have hbehind : ∀ n more, n < 256 →
      readOctet (decimal n ++ '.' :: more) = some (n, '.' :: more) := by
    intro n more hn
    rw [(readOctet_stopsAt (by decide)).ahead, readOctet_decimal hn]
    rfl
  have hwritten : dotted [a, b, c, d] =
      decimal a ++ '.' :: (decimal b ++ '.' :: (decimal c ++ '.' :: decimal d)) := by
    simp [dotted, List.intercalate, List.intersperse]
  have hdot : ∀ more, readChar '.' ('.' :: more) = some more := fun _ => rfl
  simp only [List.forall_mem_cons] at hlow
  obtain ⟨ha, hb, hc, hd, -⟩ := hlow
  rw [hwritten]
  simp only [readV4, hbehind _ _ ha, hbehind _ _ hb, hbehind _ _ hc, readOctet_decimal hd, hdot,
    Option.bind_eq_bind, Option.bind_some]

/-- There are dots in an IPv4 address. -/
theorem readV4_of_no_dot {cs : List Char} (h : '.' ∉ cs) : readV4 cs = none := by
  cases hfirst : readOctet cs with
  | none => simp [readV4, hfirst]
  | some found =>
    obtain ⟨a, rest⟩ := found
    have hleft : rest <:+ cs := (readOctet_stopsAt (show IsMark '.' by decide)).suffix hfirst
    have hnone : readChar '.' rest = none := by
      refine Option.eq_none_iff_forall_ne_some.mpr fun more hmore => h (hleft.subset ?_)
      rw [readChar_eq_some_iff.mp hmore]
      exact List.mem_cons_self
    simp [readV4, hfirst, hnone]

theorem readV4_colon (more : List Char) : readV4 (':' :: more) = none :=
  (readV4_stopsAt (by decide) (by decide)).ahead [] more

/-! ### Groups of IPv6 addresses -/

/-- The groups, each of them behind a colon. -/
def behindColons (groups : List Nat) : List Char :=
  groups.flatMap fun g => ':' :: hexLower g

theorem colons_cons (g : Nat) (groups : List Nat) :
    colons (g :: groups) = hexLower g ++ behindColons groups := by
  induction groups generalizing g with
  | nil => simp [colons, behindColons, List.intercalate]
  | cons h groups ih =>
    have hstep : colons (g :: h :: groups) = hexLower g ++ ':' :: colons (h :: groups) := by
      simp [colons, List.intercalate]
    rw [hstep, ih]
    simp [behindColons]

/-- No group can be read further: nothing is left, or two colons. -/
inductive GroupsEnd : List Char → Prop where
  | nil : GroupsEnd []
  | gap (more : List Char) : GroupsEnd (':' :: ':' :: more)

theorem behindColons_cases {groups : List Nat} {rest : List Char} (h : GroupsEnd rest) :
    behindColons groups ++ rest = [] ∨ ∃ more, behindColons groups ++ rest = ':' :: more := by
  cases groups with
  | nil =>
    cases h with
    | nil => exact .inl rfl
    | gap more => exact .inr ⟨_, rfl⟩
  | cons g groups => exact .inr ⟨_, rfl⟩

theorem dot_not_mem_hexLower (n : Nat) : '.' ∉ hexLower n := by
  intro h
  obtain ⟨d, hd, hdot⟩ := Text.exists_digitChar_of_mem (by decide) h
  have hall : ∀ d < 16, '.' ≠ Nat.digitChar d := by decide
  exact hall d hd hdot

section

variable {g : Nat} {tail : List Char}

/-- A group is no IPv4 address, with nothing or a colon behind it. -/
theorem readV4_hexLower (htail : tail = [] ∨ ∃ more, tail = ':' :: more) :
    readV4 (hexLower g ++ tail) = none := by
  have hnone : readV4 (hexLower g) = none := readV4_of_no_dot (dot_not_mem_hexLower g)
  rcases htail with rfl | ⟨more, rfl⟩
  · rwa [List.append_nil]
  · rw [(readV4_stopsAt (by decide) (by decide)).ahead, hnone]
    rfl

theorem readGroup_hexLower_append (hg : g < 65536)
    (htail : tail = [] ∨ ∃ more, tail = ':' :: more) :
    readGroup (hexLower g ++ tail) = some (g, tail) := by
  rcases htail with rfl | ⟨more, rfl⟩
  · rw [List.append_nil, readGroup_hexLower hg]
  · rw [(readGroup_stopsAt (by decide)).ahead, readGroup_hexLower hg]
    rfl

theorem readGroups_hexLower {limit : Nat} {first : Bool} {cs : List Char}
    (hcs : (if first then some cs else readChar ':' cs) = some (hexLower g ++ tail))
    (hg : g < 65536) (htail : tail = [] ∨ ∃ more, tail = ':' :: more) :
    readGroups (limit + 1) first cs = (g :: (readGroups limit false tail).1,
      (readGroups limit false tail).2.1, (readGroups limit false tail).2.2) := by
  refine readGroups_cons hcs ?_ (readGroup_hexLower_append hg htail)
  rw [readV4_hexLower htail, ite_self]

end

theorem readGroups_end {rest : List Char} (h : GroupsEnd rest) (limit : Nat) (first : Bool) :
    readGroups limit first rest = ([], false, rest) := by
  cases limit with
  | zero => rfl
  | succ limit =>
    cases h with
    | nil =>
      cases first with
      | true =>
        have hv4 : (if 0 < limit then readV4 [] else none) = none := by
          rw [readV4_of_no_dot List.not_mem_nil, ite_self]
        exact readGroups_of_no_group rfl hv4 rfl
      | false => exact readGroups_of_no_colon rfl
    | gap more =>
      have hgroup : ∀ more, readGroup (':' :: more) = none :=
        (readGroup_stopsAt (by decide)).ahead []
      cases first with
      | true => exact readGroups_of_no_group rfl (by rw [readV4_colon, ite_self]) (hgroup _)
      | false => exact readGroups_of_no_group rfl (by rw [readV4_colon, ite_self]) (hgroup _)

theorem readGroups_behindColons {groups : List Nat} {limit : Nat} {rest : List Char}
    (hlow : ∀ g ∈ groups, g < 65536) (hlimit : groups.length ≤ limit) (h : GroupsEnd rest) :
    readGroups limit false (behindColons groups ++ rest) = (groups, false, rest) := by
  induction groups generalizing limit with
  | nil => exact readGroups_end h limit false
  | cons g groups ih =>
    obtain ⟨hg, hgroups⟩ := List.forall_mem_cons.mp hlow
    obtain ⟨limit, rfl⟩ := Nat.exists_eq_add_of_lt (Nat.zero_lt_of_lt hlimit)
    rw [Nat.zero_add] at hlimit ⊢
    have hwritten : behindColons (g :: groups) ++ rest =
        ':' :: (hexLower g ++ (behindColons groups ++ rest)) := by
      simp [behindColons]
    rw [hwritten, readGroups_hexLower rfl hg (behindColons_cases h),
      ih hgroups (Nat.le_of_succ_le_succ hlimit)]

/-- **Groups are read as they are written**, up to their end. -/
theorem readGroups_colons {groups : List Nat} {limit : Nat} {rest : List Char}
    (hlow : ∀ g ∈ groups, g < 65536) (hlimit : groups.length ≤ limit) (h : GroupsEnd rest) :
    readGroups limit true (colons groups ++ rest) = (groups, false, rest) := by
  cases groups with
  | nil => exact readGroups_end h limit true
  | cons g groups =>
    obtain ⟨hg, hgroups⟩ := List.forall_mem_cons.mp hlow
    obtain ⟨limit, rfl⟩ := Nat.exists_eq_add_of_lt (Nat.zero_lt_of_lt hlimit)
    rw [Nat.zero_add] at hlimit ⊢
    rw [colons_cons, List.append_assoc, readGroups_hexLower rfl hg (behindColons_cases h),
      readGroups_behindColons hgroups (Nat.le_of_succ_le_succ hlimit) h]

/-! ### Runs of zeros -/

theorem zerosAhead_spec (groups : List Nat) :
    groups = List.replicate (zerosAhead groups) 0 ++ groups.drop (zerosAhead groups) := by
  induction groups with
  | nil => rfl
  | cons g groups ih =>
    by_cases h : g = 0
    · have hahead : zerosAhead (g :: groups) = zerosAhead groups + 1 := by
        simp [zerosAhead, h]
      rw [hahead, List.replicate_succ, List.cons_append, List.drop_succ_cons, ← ih, h]
    · have hahead : zerosAhead (g :: groups) = 0 := by
        simp [zerosAhead, h]
      rw [hahead]
      rfl

/-- The longest run of zeros is a run of zeros, where it is said to be. -/
theorem longestZeros_spec (groups : List Nat) (start : Nat) :
    ∃ front back, groups = front ++ List.replicate (longestZeros groups start).2 0 ++ back ∧
      (0 < (longestZeros groups start).2 →
        (longestZeros groups start).1 = start + front.length) := by
  induction groups generalizing start with
  | nil => exact ⟨[], [], rfl, nofun⟩
  | cons g groups ih =>
    obtain ⟨front, back, hgroups, hstart⟩ := ih (start + 1)
    by_cases hlater : (longestZeros groups (start + 1)).2 ≤ zerosAhead (g :: groups)
    · have hhere : longestZeros (g :: groups) start = (start, zerosAhead (g :: groups)) := by
        simp only [longestZeros, if_pos hlater]
      rw [hhere]
      exact ⟨[], _, zerosAhead_spec (g :: groups), fun _ => rfl⟩
    · have hthere : longestZeros (g :: groups) start = longestZeros groups (start + 1) := by
        simp only [longestZeros, if_neg hlater]
      rw [hthere]
      refine ⟨g :: front, back, ?_, fun hpos => ?_⟩
      · rw [List.cons_append, List.cons_append, ← hgroups]
      · rw [hstart hpos, List.length_cons]
        omega

/-! ### Texts of IPv6 addresses -/

/-- The three ways to write eight groups: the last two as an IPv4 address, all of them, or with a
run of zeros left out. -/
inductive V6Shape : List Nat → List Char → Prop where
  | mapped (g h : Nat) : V6Shape [0, 0, 0, 0, 0, 0xFFFF, g, h]
      (':' :: ':' :: ("ffff:".toList ++ dotted [g / 256, g % 256, h / 256, h % 256]))
  | full (groups : List Nat) : V6Shape groups (colons groups)
  | gap (front back : List Nat) {count : Nat} (hcount : 0 < count) :
      V6Shape (front ++ List.replicate count 0 ++ back) (colons front ++ ':' :: ':' :: colons back)

theorem v6Text_shape (groups : List Nat) : V6Shape groups (v6Text groups) := by
  unfold v6Text
  split
  · exact .mapped _ _
  · obtain ⟨front, back, hgroups, hstart⟩ := longestZeros_spec groups 0
    by_cases hshort : (longestZeros groups 0).2 < 2
    · simp only [if_pos hshort]
      exact .full groups
    · have hpos : 0 < (longestZeros groups 0).2 := by omega
      simp only [if_neg hshort, hstart hpos]
      generalize (longestZeros groups 0).2 = count at hgroups hpos
      have hbefore : groups.take (0 + front.length) = front := by
        rw [hgroups, Nat.zero_add, List.append_assoc, List.take_left]
      have hbehind : groups.drop (0 + front.length + count) = back := by
        rw [hgroups, Nat.zero_add]
        exact List.drop_left' (by rw [List.length_append, List.length_replicate])
      rw [hbefore, hbehind, List.append_assoc, hgroups]
      exact .gap front back hpos

theorem readV6_gap {front back : List Nat} {count : Nat} (hfront : ∀ g ∈ front, g < 65536)
    (hback : ∀ g ∈ back, g < 65536) (hcount : 0 < count)
    (hlength : front.length + count + back.length = 8) :
    readV6 (colons front ++ ':' :: ':' :: colons back) =
      some (front ++ List.replicate count 0 ++ back, []) := by
  have hread := readGroups_colons hfront (show front.length ≤ 8 by omega) (.gap (colons back))
  have hrest := readGroups_colons hback (show back.length ≤ 7 - front.length by omega) .nil
  rw [List.append_nil] at hrest
  have hopen : front.length ≠ 8 := by omega
  have hzeros : 8 - front.length - back.length = count := by omega
  have hcolon : ∀ more, readChar ':' (':' :: more) = some more := fun _ => rfl
  unfold readV6
  simp only [hread, hopen, if_false, hcolon, hrest, hzeros, Option.bind_eq_bind, Option.bind_some,
    Bool.false_eq_true]

theorem readV6_mapped {g h : Nat} (hg : g < 65536) (hh : h < 65536) :
    readV6 (':' :: ':' :: ("ffff:".toList ++ dotted [g / 256, g % 256, h / 256, h % 256])) =
      some ([0, 0, 0, 0, 0, 0xFFFF, g, h], []) := by
  have hwell : (Ip.v4 [g / 256, g % 256, h / 256, h % 256]).WellFormed := by
    refine ⟨rfl, ?_⟩
    simp only [List.forall_mem_cons]
    exact ⟨by omega, by omega, by omega, by omega, nofun⟩
  have hcolon : ∀ more, readChar ':' (':' :: more) = some more := fun _ => rfl
  have hfront := readGroups_end
    (.gap ("ffff:".toList ++ dotted [g / 256, g % 256, h / 256, h % 256])) 8 true
  have hlast : readGroups 6 false (':' :: dotted [g / 256, g % 256, h / 256, h % 256]) =
      ([g, h], true, []) := by
    have hoctets : groupsOfOctets [g / 256, g % 256, h / 256, h % 256] = [g, h] := by
      simp [groupsOfOctets, Nat.div_add_mod']
    rw [← hoctets]
    exact readGroups_of_v4 (hcolon _) (readV4_dotted hwell)
  have hback : readGroups 7 true ("ffff:".toList ++ dotted [g / 256, g % 256, h / 256, h % 256]) =
      ([0xFFFF, g, h], true, []) := by
    have hstart : (if true then some ("ffff:".toList ++ dotted [g / 256, g % 256, h / 256, h % 256])
        else readChar ':' ("ffff:".toList ++ dotted [g / 256, g % 256, h / 256, h % 256])) =
          some (hexLower 0xFFFF ++ ':' :: dotted [g / 256, g % 256, h / 256, h % 256]) := rfl
    rw [readGroups_hexLower hstart (by decide) (.inr ⟨_, rfl⟩), hlast]
  unfold readV6
  simp only [hfront, hcolon, hback, List.length_nil, Option.bind_eq_bind, Option.bind_some,
    Nat.sub_zero]
  rfl

/-- **An IPv6 address is read as it is written.** -/
theorem readV6_v6Text {groups : List Nat} (h : (Ip.v6 groups).WellFormed) :
    readV6 (v6Text groups) = some (groups, []) := by
  obtain ⟨hlength, hlow⟩ := h
  have hshape := v6Text_shape groups
  generalize v6Text groups = text at hshape ⊢
  cases hshape with
  | mapped g h =>
    simp only [List.forall_mem_cons] at hlow
    exact readV6_mapped hlow.2.2.2.2.2.2.1 hlow.2.2.2.2.2.2.2.1
  | full =>
    have hread := readGroups_colons hlow (Nat.le_of_eq hlength) .nil
    rw [List.append_nil] at hread
    unfold readV6
    simp only [hread, hlength, if_true]
  | gap front back hcount =>
    simp only [List.length_append, List.length_replicate] at hlength
    refine readV6_gap ?_ ?_ hcount hlength
    · exact fun g hg => hlow g (List.mem_append_left _ (List.mem_append_left _ hg))
    · exact fun g hg => hlow g (List.mem_append_right _ hg)

/-- In a text with a mark between its parts stand the mark and what stands in the parts. -/
theorem mem_intercalate {mark c : Char} {parts : List (List Char)}
    (h : c ∈ [mark].intercalate parts) : c = mark ∨ ∃ part ∈ parts, c ∈ part := by
  unfold List.intercalate at h
  fun_induction List.intersperse [mark] parts with
  | case1 => cases h
  | case2 part => exact .inr ⟨part, List.mem_cons_self, by simpa using h⟩
  | case3 part next parts ih =>
    simp only [List.flatten_cons, List.mem_append, List.mem_singleton] at h
    rcases h with h | h | h
    · exact .inr ⟨part, List.mem_cons_self, h⟩
    · exact .inl h
    · rcases ih h with h | ⟨other, hother, h⟩
      · exact .inl h
      · exact .inr ⟨other, List.mem_cons_of_mem _ hother, h⟩

theorem dot_not_mem_colons (groups : List Nat) : '.' ∉ colons groups := by
  intro h
  rcases mem_intercalate h with hcolon | ⟨part, hpart, hdot⟩
  · cases hcolon
  · obtain ⟨g, -, rfl⟩ := List.mem_map.mp hpart
    exact dot_not_mem_hexLower g hdot

/-- The text of an IPv6 address is not that of an IPv4 address, even if it ends in one. -/
theorem readV4_v6Text (groups : List Nat) : readV4 (v6Text groups) = none := by
  have hshape := v6Text_shape groups
  generalize v6Text groups = text at hshape ⊢
  cases hshape with
  | mapped g h => exact readV4_colon _
  | full => exact readV4_of_no_dot (dot_not_mem_colons groups)
  | gap front back hcount =>
    refine readV4_of_no_dot fun h => ?_
    simp only [List.mem_append, List.mem_cons, dot_not_mem_colons, false_or, or_false] at h
    exact absurd h (by decide)

/-- **An address is read as it is written.** -/
theorem Ip.ofText?_toText {ip : Ip} (h : ip.WellFormed) : Ip.ofText? ip.toText = some ip := by
  cases ip with
  | v4 octets => simp only [Ip.ofText?, Ip.toText, readIp, readV4_dotted h, whole]
  | v6 groups =>
    simp only [Ip.ofText?, Ip.toText, readIp, readV4_v6Text, readV6_v6Text h, Option.map_some,
      whole]

/-- Only digits, dots and colons stand in the text of an address. -/
theorem mem_toText {ip : Ip} {c : Char} (h : c ∈ ip.toText) :
    (∃ d < 16, c = d.digitChar) ∨ c = '.' ∨ c = ':' := by
  have hdotted : ∀ {octets : List Nat}, c ∈ dotted octets →
      (∃ d < 16, c = d.digitChar) ∨ c = '.' ∨ c = ':' := by
    intro octets h
    rcases mem_intercalate h with hdot | ⟨part, hpart, hc⟩
    · exact .inr (.inl hdot)
    · obtain ⟨octet, -, rfl⟩ := List.mem_map.mp hpart
      obtain ⟨d, hd, rfl⟩ := Text.exists_digitChar_of_mem (by decide) hc
      exact .inl ⟨d, by omega, rfl⟩
  have hcolons : ∀ {groups : List Nat}, c ∈ colons groups →
      (∃ d < 16, c = d.digitChar) ∨ c = '.' ∨ c = ':' := by
    intro groups h
    rcases mem_intercalate h with hcolon | ⟨part, hpart, hc⟩
    · exact .inr (.inr hcolon)
    · obtain ⟨g, -, rfl⟩ := List.mem_map.mp hpart
      exact .inl (Text.exists_digitChar_of_mem (by decide) hc)
  cases ip with
  | v4 octets => exact hdotted h
  | v6 groups =>
    have htext : c ∈ v6Text groups := h
    have hshape := v6Text_shape groups
    generalize v6Text groups = text at hshape htext
    cases hshape with
    | mapped =>
      have hffff : "ffff:".toList = hexLower 0xFFFF ++ [':'] := rfl
      simp only [hffff, List.mem_cons, List.mem_append, List.not_mem_nil, or_false] at htext
      rcases htext with h | h | (h | h) | h
      · exact .inr (.inr h)
      · exact .inr (.inr h)
      · exact .inl (Text.exists_digitChar_of_mem (by decide) h)
      · exact .inr (.inr h)
      · exact hdotted h
    | full => exact hcolons htext
    | gap front back hcount =>
      simp only [List.mem_append, List.mem_cons] at htext
      rcases htext with h | h | h | h
      · exact hcolons h
      · exact .inr (.inr h)
      · exact .inr (.inr h)
      · exact hcolons h

end UserAccounts.Net
