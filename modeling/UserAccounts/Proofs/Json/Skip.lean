/-
# Any value is passed over

A value that nobody asked for is walked through to its end, while what encloses it waits
on a stack. The number of steps this takes depends on the value alone, and not on what it
stands in or what stands behind it (`Item.WalkedIn`); it is less than two for each byte
(`Item.exists_steps`, by induction over the value). So the steps that there are for the
bytes of a text are enough, however deep the value is (`skipValue_item`).

Key definitions: `Item.WalkedIn`, `PartsWalkedIn`.
Key theorems: `Item.exists_steps`, `skipValue_item`.
-/
import UserAccounts.Proofs.Json.Item

namespace UserAccounts.Json

open Utf8 (bytesOf)

def Nest.bracket : Nest → Char
  | .list => ']'
  | .object => '\x7d'

/-- Walking through the value takes so many steps, whatever encloses it and stands behind it. -/
def Item.WalkedIn (i : Item) (steps : Nat) : Prop :=
  ∀ (fuel : Nat) (nests : List Nest) (rest : Bytes) (p : Position), EndsNumeral rest →
    ∃ q, walk (fuel + steps) nests .before ⟨bytesOf i.write ++ rest, p⟩ =
      walk fuel nests (.inside true) ⟨rest, q⟩

/-- Walking through what stands behind a part of a list or an object, up to and with the closing
bracket, takes so many steps. -/
def PartsWalkedIn (nest : Nest) (parts : List (List Char)) (steps : Nat) : Prop :=
  ∀ (fuel : Nat) (nests : List Nest) (rest : Bytes) (p : Position),
    ∃ q, walk (fuel + steps) (nest :: nests) (.inside true)
        ⟨bytesOf (behindComma nest.bracket parts) ++ rest, p⟩ =
      walk fuel nests (.inside true) ⟨rest, q⟩

/-! ### Values without parts -/

section

variable {i : Item}

theorem Item.walkedIn_one
    (h : ∀ (rest : Bytes) (p : Position), EndsNumeral rest → ∃ b more q,
      bytesOf i.write ++ rest = b :: more ∧ isSpace b = false ∧ b ≠ 0x5B ∧ b ≠ 0x7B ∧
        skipScalar b ⟨b :: more, p⟩ = .ok ⟨rest, q⟩) :
    i.WalkedIn 1 := by
  intro fuel nests rest p hrest
  obtain ⟨b, more, q, hwritten, hspace, hlist, hobject, hskip⟩ := h rest p hrest
  refine ⟨q, ?_⟩
  rw [hwritten, walk, skipSpace_eq_self hspace]
  simp only
  rw [if_neg (by simpa using hlist), if_neg (by simpa using hobject), hskip]

theorem Item.walkedIn_numeral {chars : List Char} (h : IsNumeral chars) (hwrite : i.write = chars) :
    i.WalkedIn 1 := by
  refine Item.walkedIn_one fun rest p hrest => ?_
  obtain ⟨b, more, hwritten, hb, hspace⟩ := exists_numeral_byte h
  obtain ⟨q, hskip⟩ := skipNumber_written h hrest p
  rw [hwritten, List.cons_append] at hskip
  have hne : ∀ d : UInt8, (d == 0x2D || isDigitByte d) = false → ¬ (b == d) = true :=
    fun d hd => by simpa using ne_of_numeralByte hb hd
  refine ⟨b, more ++ rest, q, by rw [hwrite, hwritten, List.cons_append], hspace,
    ne_of_numeralByte hb (by decide), ne_of_numeralByte hb (by decide), ?_⟩
  unfold skipScalar
  rw [if_neg (hne _ (by decide)), if_neg (hne _ (by decide)), if_neg (hne _ (by decide)),
    if_neg (hne _ (by decide)), if_pos hb, hskip]

theorem Item.walkedIn_text (s : String) : (Item.text s).WalkedIn 1 := by
  refine Item.walkedIn_one fun rest p _ => ?_
  obtain ⟨q, hskip⟩ := skipString_written s.toList rest (p.advance 0x22)
  exact ⟨0x22, _, q, bytesOf_writeString s rest, by decide, by decide, by decide, hskip⟩

theorem Item.walkedIn_null : Item.null.WalkedIn 1 :=
  Item.walkedIn_one fun _ _ _ => ⟨_, _, _, rfl, by decide, by decide, by decide, rfl⟩

theorem Item.walkedIn_boolean (b : Bool) : (Item.boolean b).WalkedIn 1 := by
  apply Item.walkedIn_one
  intro rest p _
  cases b with
  | true => exact ⟨_, _, _, rfl, by decide, by decide, by decide, rfl⟩
  | false => exact ⟨_, _, _, rfl, by decide, by decide, by decide, rfl⟩

end

/-! ### Lists and objects -/

section

variable {fuel : Nat} {nests : List Nest} {more : Bytes}

theorem skipKey_written (key : String) (more : Bytes) (p : Position) :
    ∃ q, skipKey ⟨bytesOf (writeString key) ++ 0x3A :: more, p⟩ = .ok ⟨more, q⟩ := by
  obtain ⟨q, hskip⟩ := skipString_written key.toList (0x3A :: more) (p.advance 0x22)
  refine ⟨q.advance 0x3A, ?_⟩
  have hnext : (⟨0x22 :: (bytesOf (key.toList.flatMap escaped) ++ 0x22 :: 0x3A :: more), p⟩ :
      Cursor).next = ⟨bytesOf (key.toList.flatMap escaped) ++ 0x22 :: 0x3A :: more,
        p.advance 0x22⟩ := rfl
  rw [bytesOf_writeString]
  unfold skipKey
  rw [skipSpace_eq_self (by decide)]
  simp only [hnext, hskip, bind, Except.bind]
  rfl

theorem walk_open_list (p : Position) :
    walk (fuel + 1) nests .before ⟨0x5B :: more, p⟩ =
      walk fuel (.list :: nests) (.inside false) ⟨more, p.advance 0x5B⟩ := by
  rw [walk]
  rfl

theorem walk_open_object (p : Position) :
    walk (fuel + 1) nests .before ⟨0x7B :: more, p⟩ =
      walk fuel (.object :: nests) (.inside false) ⟨more, p.advance 0x7B⟩ := by
  rw [walk]
  rfl

/-- The closing bracket ends a list or an object. -/
theorem walk_close (nest : Nest) (hasValue : Bool) (rest : Bytes) (p : Position) :
    walk (fuel + 1) (nest :: nests) (.inside hasValue) ⟨bytesOf [nest.bracket] ++ rest, p⟩ =
      walk fuel nests (.inside true) ⟨rest, p.advance nest.close⟩ := by
  cases nest with
  | list => rfl
  | object => rfl

theorem partsWalkedIn_nil (nest : Nest) : PartsWalkedIn nest [] 1 :=
  fun _ _ rest p => ⟨p.advance nest.close, walk_close nest true rest p⟩

theorem walk_comma_element (p : Position) :
    walk (fuel + 1) (.list :: nests) (.inside true) ⟨0x2C :: more, p⟩ =
      walk fuel (.list :: nests) .before ⟨more, p.advance 0x2C⟩ := rfl

theorem walk_first_element {b : UInt8} (hspace : isSpace b = false) (hb : b ≠ 0x5D)
    (p : Position) :
    walk (fuel + 1) (.list :: nests) (.inside false) ⟨b :: more, p⟩ =
      walk fuel (.list :: nests) .before ⟨b :: more, p⟩ := by
  rw [walk, skipSpace_eq_self hspace]
  simp only
  rw [if_neg (by simpa [Nest.close] using hb), if_neg (by simp)]
  rfl

theorem walk_comma_key (key : String) (more : Bytes) (p : Position) :
    ∃ q, walk (fuel + 1) (.object :: nests) (.inside true)
        ⟨0x2C :: (bytesOf (writeString key) ++ 0x3A :: more), p⟩ =
      walk fuel (.object :: nests) .before ⟨more, q⟩ := by
  obtain ⟨q, hskip⟩ := skipKey_written key more (p.advance 0x2C)
  have hnext : (⟨0x2C :: (bytesOf (writeString key) ++ 0x3A :: more), p⟩ : Cursor).next =
      ⟨bytesOf (writeString key) ++ 0x3A :: more, p.advance 0x2C⟩ := rfl
  refine ⟨q, ?_⟩
  rw [walk, skipSpace_eq_self (by decide)]
  simp only
  rw [if_neg (by decide), if_neg (by decide), if_pos trivial, hnext, hskip]

theorem walk_first_key (key : String) (more : Bytes) (p : Position) :
    ∃ q, walk (fuel + 1) (.object :: nests) (.inside false)
        ⟨bytesOf (writeString key) ++ 0x3A :: more, p⟩ =
      walk fuel (.object :: nests) .before ⟨more, q⟩ := by
  obtain ⟨q, hskip⟩ := skipKey_written key more p
  refine ⟨q, ?_⟩
  rw [bytesOf_writeString] at hskip ⊢
  rw [walk, skipSpace_eq_self (by decide)]
  simp only
  rw [if_neg (by decide), if_neg (by simp), if_neg (by simp), hskip]

end

section

variable {i : Item} {items : List Item} {members : List (String × Item)} {steps stepsBehind : Nat}

theorem Item.write_list_cons (i : Item) (items : List Item) :
    (Item.list (i :: items)).write = '[' :: (i.write ++ behindComma ']' (writeItems items)) := by
  rw [Item.write, writeItems, intercalate_append_close]

theorem Item.write_object_cons (key : String) (i : Item) (members : List (String × Item)) :
    (Item.object ((key, i) :: members)).write =
      '\x7b' :: ((writeString key ++ ':' :: i.write) ++
        behindComma '\x7d' (writeEntries members)) := by
  rw [Item.write, writeEntries, intercalate_append_close]

theorem bytesOf_entry (key : String) (i : Item) (rest : Bytes) :
    bytesOf (writeString key ++ ':' :: i.write) ++ rest =
      bytesOf (writeString key) ++ 0x3A :: (bytesOf i.write ++ rest) := by
  rw [Utf8.bytesOf_append, Utf8.bytesOf_cons_ascii (by decide), List.append_assoc,
    List.cons_append]
  rfl

theorem Item.WalkedIn.inside {nest : Nest} {parts : List (List Char)} (h : i.WalkedIn steps)
    (hbehind : PartsWalkedIn nest parts stepsBehind) (fuel : Nat) (nests : List Nest)
    (rest : Bytes) (p : Position) :
    ∃ q, walk (fuel + stepsBehind + steps) (nest :: nests) .before
        ⟨bytesOf i.write ++ (bytesOf (behindComma nest.bracket parts) ++ rest), p⟩ =
      walk fuel nests (.inside true) ⟨rest, q⟩ := by
  have hbracket : nest.bracket ∈ [']', '\x7d'] := by cases nest <;> decide
  obtain ⟨q, hvalue⟩ := h (fuel + stepsBehind) (nest :: nests) _ p
    (endsNumeral_behindComma hbracket parts rest)
  obtain ⟨q', hparts⟩ := hbehind fuel nests rest q
  exact ⟨q', hvalue.trans hparts⟩

theorem Item.WalkedIn.behindComma (h : i.WalkedIn steps)
    (hbehind : PartsWalkedIn .list (writeItems items) stepsBehind) :
    PartsWalkedIn .list (writeItems (i :: items)) (stepsBehind + steps + 1) := by
  intro fuel nests rest p
  obtain ⟨q, hinside⟩ := h.inside hbehind fuel nests rest (p.advance 0x2C)
  refine ⟨q, ?_⟩
  rw [writeItems, bytesOf_behindComma_cons, ← Nat.add_assoc, ← Nat.add_assoc]
  exact (walk_comma_element p).trans hinside

theorem Item.WalkedIn.behindKey (h : i.WalkedIn steps) (key : String)
    (hbehind : PartsWalkedIn .object (writeEntries members) stepsBehind) :
    PartsWalkedIn .object (writeEntries ((key, i) :: members)) (stepsBehind + steps + 1) := by
  intro fuel nests rest p
  rw [writeEntries, bytesOf_behindComma_cons, bytesOf_entry, ← Nat.add_assoc, ← Nat.add_assoc]
  obtain ⟨q, hkey⟩ := walk_comma_key key _ p
  obtain ⟨q', hinside⟩ := h.inside hbehind fuel nests rest q
  exact ⟨q', hkey.trans hinside⟩

theorem walkedIn_noItems : (Item.list []).WalkedIn 2 := by
  intro fuel nests rest p _
  exact ⟨_, (walk_open_list p).trans (walk_close .list false rest (p.advance 0x5B))⟩

theorem walkedIn_noMembers : (Item.object []).WalkedIn 2 := by
  intro fuel nests rest p _
  exact ⟨_, (walk_open_object p).trans (walk_close .object false rest (p.advance 0x7B))⟩

theorem Item.WalkedIn.list (h : i.WalkedIn steps)
    (hbehind : PartsWalkedIn .list (writeItems items) stepsBehind) :
    (Item.list (i :: items)).WalkedIn (stepsBehind + steps + 2) := by
  intro fuel nests rest p _
  obtain ⟨b, more, hwritten, hbegins, hspace⟩ := i.exists_byte
  obtain ⟨q, hinside⟩ := h.inside hbehind fuel nests rest (p.advance 0x5B)
  rw [hwritten, List.cons_append] at hinside
  refine ⟨q, ?_⟩
  rw [Item.write_list_cons, Utf8.bytesOf_cons_ascii (by decide), Utf8.bytesOf_append,
    List.cons_append, List.append_assoc, ← Nat.add_assoc, ← Nat.add_assoc, hwritten,
    List.cons_append]
  calc walk (fuel + stepsBehind + steps + 2) nests .before ⟨0x5B :: _, p⟩
    _ = walk (fuel + stepsBehind + steps + 1) (.list :: nests) (.inside false)
          ⟨b :: _, p.advance 0x5B⟩ := walk_open_list p
    _ = walk (fuel + stepsBehind + steps) (.list :: nests) .before ⟨b :: _, p.advance 0x5B⟩ :=
          walk_first_element hspace hbegins.ne_close (p.advance 0x5B)
    _ = walk fuel nests (.inside true) ⟨rest, q⟩ := hinside

theorem Item.WalkedIn.object (h : i.WalkedIn steps) (key : String)
    (hbehind : PartsWalkedIn .object (writeEntries members) stepsBehind) :
    (Item.object ((key, i) :: members)).WalkedIn (stepsBehind + steps + 2) := by
  intro fuel nests rest p _
  obtain ⟨q, hkey⟩ := walk_first_key key _ (p.advance 0x7B)
  obtain ⟨q', hinside⟩ := h.inside hbehind fuel nests rest q
  refine ⟨q', ?_⟩
  rw [Item.write_object_cons, Utf8.bytesOf_cons_ascii (by decide), Utf8.bytesOf_append,
    List.cons_append, List.append_assoc, bytesOf_entry, ← Nat.add_assoc, ← Nat.add_assoc]
  calc walk (fuel + stepsBehind + steps + 2) nests .before ⟨0x7B :: _, p⟩
    _ = walk (fuel + stepsBehind + steps + 1) (.object :: nests) (.inside false)
          ⟨_, p.advance 0x7B⟩ := walk_open_object p
    _ = walk (fuel + stepsBehind + steps) (.object :: nests) .before ⟨_, q⟩ := hkey
    _ = walk fuel nests (.inside true) ⟨rest, q'⟩ := hinside

end

/-! ### All values -/

theorem Item.two_le_length (i : Item) : 2 ≤ 2 * (bytesOf i.write).length := by
  obtain ⟨b, more, hwritten, -, -⟩ := i.exists_byte
  rw [hwritten, List.length_cons]
  omega

mutual

/-- **A value is walked through in less than two steps for each byte.** -/
theorem Item.exists_steps : ∀ i : Item,
    ∃ steps < 2 * (bytesOf i.write).length, i.WalkedIn steps
  | .null => ⟨1, Item.two_le_length _, Item.walkedIn_null⟩
  | .boolean b => ⟨1, Item.two_le_length _, Item.walkedIn_boolean b⟩
  | .integer n => ⟨1, Item.two_le_length _, Item.walkedIn_numeral (isNumeral_signed n) rfl⟩
  | .decimal chars spelled other =>
    ⟨1, Item.two_le_length _, Item.walkedIn_numeral spelled rfl⟩
  | .text s => ⟨1, Item.two_le_length _, Item.walkedIn_text s⟩
  | .list [] => ⟨2, by decide, walkedIn_noItems⟩
  | .object [] => ⟨2, by decide, walkedIn_noMembers⟩
  | .list (i :: items) => by
    obtain ⟨steps, hsteps, hvalue⟩ := Item.exists_steps i
    obtain ⟨stepsBehind, hbehind, hparts⟩ := exists_steps_items items
    refine ⟨_, ?_, hvalue.list hparts⟩
    rw [Item.write_list_cons, Utf8.bytesOf_cons_ascii (by decide), Utf8.bytesOf_append,
      List.length_cons, List.length_append]
    omega
  | .object ((key, i) :: members) => by
    obtain ⟨steps, hsteps, hvalue⟩ := Item.exists_steps i
    obtain ⟨stepsBehind, hbehind, hparts⟩ := exists_steps_members members
    refine ⟨_, ?_, hvalue.object key hparts⟩
    rw [Item.write_object_cons, Utf8.bytesOf_cons_ascii (by decide), Utf8.bytesOf_append,
      Utf8.bytesOf_append, Utf8.bytesOf_cons_ascii (by decide), List.length_cons,
      List.length_append, List.length_append, List.length_cons]
    omega

theorem exists_steps_items : ∀ items : List Item,
    ∃ steps < 2 * (bytesOf (behindComma ']' (writeItems items))).length,
      PartsWalkedIn .list (writeItems items) steps
  | [] => ⟨1, by decide, partsWalkedIn_nil .list⟩
  | i :: items => by
    obtain ⟨steps, hsteps, hvalue⟩ := Item.exists_steps i
    obtain ⟨stepsBehind, hbehind, hparts⟩ := exists_steps_items items
    refine ⟨_, ?_, hvalue.behindComma hparts⟩
    have hlength := congrArg List.length (bytesOf_behindComma_cons ']' i.write (writeItems items) [])
    simp only [List.append_nil, List.length_cons, List.length_append] at hlength
    rw [writeItems, hlength]
    omega

theorem exists_steps_members : ∀ members : List (String × Item),
    ∃ steps < 2 * (bytesOf (behindComma '\x7d' (writeEntries members))).length,
      PartsWalkedIn .object (writeEntries members) steps
  | [] => ⟨1, by decide, partsWalkedIn_nil .object⟩
  | (key, i) :: members => by
    obtain ⟨steps, hsteps, hvalue⟩ := Item.exists_steps i
    obtain ⟨stepsBehind, hbehind, hparts⟩ := exists_steps_members members
    refine ⟨_, ?_, hvalue.behindKey key hparts⟩
    have hlength := congrArg List.length (bytesOf_behindComma_cons '\x7d'
      (writeString key ++ ':' :: i.write) (writeEntries members) [])
    rw [List.append_nil, List.append_nil, Utf8.bytesOf_append, Utf8.bytesOf_cons_ascii (by decide)]
      at hlength
    simp only [List.length_cons, List.length_append] at hlength
    rw [writeEntries, hlength]
    omega

end

/-- **Any value is passed over**, as deep as it may be. -/
theorem skipValue_item {rest : Bytes} (hrest : EndsNumeral rest) (i : Item) (p : Position) :
    ∃ q, skipValue ⟨bytesOf i.write ++ rest, p⟩ = .ok ⟨rest, q⟩ := by
  obtain ⟨steps, hsteps, hvalue⟩ := i.exists_steps
  obtain ⟨fuel, hfuel⟩ : ∃ fuel,
      2 * (bytesOf i.write ++ rest).length + 2 = fuel + 1 + steps := by
    refine ⟨2 * (bytesOf i.write ++ rest).length + 1 - steps, ?_⟩
    rw [List.length_append]
    omega
  obtain ⟨q, hwalk⟩ := hvalue (fuel + 1) [] rest p hrest
  refine ⟨q, ?_⟩
  unfold skipValue
  simp only [hfuel, hwalk]
  rfl

end UserAccounts.Json
