/-
# Objects and lists are read

An object may hold any values under any keys. Its members are gone through from left
to right: each fills the empty slot of its field, is refused if the slot is taken or the
field does not take the value, or is passed over (`Slots.accept`). What one member does
to reading is one step (`readMembers_member`), and by induction over the members reading
comes to what all of them make of the slots (`readRecord_object`).

A list is read as the values that the fields take of its elements, one of each in order
(`readRecord_list`).

Key definitions: `Slots.accept`, `Slots.tell?`, `Values.ofItems?`.
Key theorems: `readMembers_member`, `readRecord_object`, `readRecord_list`.
-/
import UserAccounts.Proofs.Json.Skip

namespace UserAccounts.Json

open Utf8 (bytesOf)

/-! ### Texts -/

theorem length_writeEntries : ∀ members : List (String × Item),
    (writeEntries members).length = members.length
  | [] => rfl
  | _ :: members => congrArg (· + 1) (length_writeEntries members)

theorem length_lt_behindComma (close : Char) (parts : List (List Char)) :
    parts.length < (bytesOf (behindComma close parts)).length := by
  induction parts with
  | nil => simpa [behindComma, Utf8.bytesOf_cons] using close.utf8Size_pos
  | cons part parts ih =>
    have hbytes := bytesOf_behindComma_cons close part parts []
    rw [List.append_nil, List.append_nil] at hbytes
    rw [hbytes]
    simp only [List.length_cons, List.length_append]
    omega

theorem bytesOf_entry_append (key : String) (i : Item) (rest : Bytes) :
    bytesOf (writeString key ++ ':' :: i.write) ++ rest =
      0x22 :: (bytesOf (key.toList.flatMap escaped) ++
        0x22 :: 0x3A :: (bytesOf i.write ++ rest)) := by
  rw [bytesOf_entry, bytesOf_writeString]

/-! ### Slots -/

variable {fields : List (String × Kind)}

/-- The slots after a member, or none if it is refused. -/
def Slots.accept (slots : Slots fields) (member : String × Item) : Option (Slots fields) :=
  match Slots.place member.1 fields slots with
  | .taken => none
  | .unknown => some slots
  | .fill kind put => (kind.value? member.2).map put

/-- The values of all fields, if the members behind these slots are taken and leave no slot
empty. -/
def Slots.tell? (slots : Slots fields) (members : List (String × Item)) :
    Option (Values fields) :=
  (members.foldlM Slots.accept slots).bind fun filled => (Slots.values fields filled).toOption

theorem Slots.tell?_cons (slots : Slots fields) (member : String × Item)
    (members : List (String × Item)) :
    slots.tell? (member :: members) =
      (slots.accept member).bind fun next => next.tell? members := by
  unfold tell?
  rw [List.foldlM_cons]
  exact Option.bind_assoc _ _ _

/-! ### Members -/

section

variable {rest more : Bytes} {fuel : Nat} {first : Bool} {slots : Slots fields}

/-- One member is taken, refused or passed over; reading goes on behind it with the slots that it
leaves. -/
theorem readMembers_member {c afterKey : Cursor} {member : String × Item} {q : Position}
    {outcome : Slots fields → Option (Values fields)}
    (hkey : nextKey first c = .ok (some (member.1, afterKey)))
    (hcolon : readColon afterKey = .ok ⟨bytesOf member.2.write ++ more, q⟩)
    (hends : EndsNumeral more)
    (hmore : ∀ next p, Yields rest (readMembers fields fuel false next ⟨more, p⟩) (outcome next)) :
    Yields rest (readMembers fields (fuel + 1) first slots c)
      ((slots.accept member).bind outcome) := by
  unfold Slots.accept
  rw [readMembers, hkey]
  simp only
  cases hplace : Slots.place member.1 fields slots with
  | taken => exact ⟨_, rfl⟩
  | unknown =>
    obtain ⟨q', hskip⟩ := skipValue_item hends member.2 q
    simp only [hcolon, hskip, inPart]
    exact hmore slots q'
  | fill kind put =>
    have hread := Kind.read_item hends member.2 q kind
    simp only [hcolon]
    cases hvalue : kind.value? member.2 with
    | none =>
      rw [hvalue] at hread
      obtain ⟨problem, hrefused⟩ := hread
      simp only [hrefused, inPart]
      exact ⟨_, rfl⟩
    | some value =>
      rw [hvalue] at hread
      obtain ⟨q', hfound⟩ := hread
      simp only [hfound, inPart]
      exact hmore (put value) q'

theorem readMembers_end {c : Cursor} (hkey : nextKey first c = .ok none) {q : Position}
    (hleave : leaveObject c = ⟨rest, q⟩) :
    Yields rest (readMembers fields (fuel + 1) first slots c)
      (Slots.values fields slots).toOption := by
  rw [readMembers, hkey]
  simp only
  cases Slots.values fields slots with
  | error missing => exact ⟨_, rfl⟩
  | ok values => exact ⟨q, by rw [hleave]⟩

theorem readMembers_behindComma {members : List (String × Item)} (slots : Slots fields)
    (hfuel : members.length < fuel) (rest : Bytes) (p : Position) :
    Yields rest
      (readMembers fields fuel false slots
        ⟨bytesOf (behindComma '\x7d' (writeEntries members)) ++ rest, p⟩)
      (slots.tell? members) := by
  induction members generalizing fuel slots p with
  | nil =>
    obtain ⟨fuel, rfl⟩ := Nat.exists_eq_add_one_of_ne_zero (Nat.ne_of_gt hfuel)
    exact readMembers_end rfl (q := p.advance 0x7D) rfl
  | cons member members ih =>
    obtain ⟨fuel, rfl⟩ := Nat.exists_eq_add_one_of_ne_zero (Nat.ne_of_gt (Nat.zero_lt_of_lt hfuel))
    obtain ⟨key, i⟩ := member
    rw [writeEntries, bytesOf_behindComma_cons, bytesOf_entry_append, Slots.tell?_cons]
    obtain ⟨afterKey, q, hkey, hcolon⟩ := exists_key_written key
      (bytesOf i.write ++ (bytesOf (behindComma '\x7d' (writeEntries members)) ++ rest))
      ((p.advance 0x2C).advance 0x22)
    exact readMembers_member (nextKey_behind hkey) hcolon (endsNumeral_behindComma (by decide) _ _)
      fun next q => ih next (Nat.lt_of_succ_lt_succ hfuel) q

theorem readMembers_intercalate {members : List (String × Item)} (slots : Slots fields)
    (hfuel : members.length < fuel) (rest : Bytes) (p : Position) :
    Yields rest
      (readMembers fields fuel true slots
        ⟨bytesOf ([','].intercalate (writeEntries members) ++ ['\x7d']) ++ rest, p⟩)
      (slots.tell? members) := by
  obtain ⟨fuel, rfl⟩ := Nat.exists_eq_add_one_of_ne_zero (Nat.ne_of_gt (Nat.zero_lt_of_lt hfuel))
  cases members with
  | nil => exact readMembers_end rfl (q := p.advance 0x7D) rfl
  | cons member members =>
    obtain ⟨key, i⟩ := member
    rw [writeEntries, intercalate_append_close, Utf8.bytesOf_append, List.append_assoc,
      bytesOf_entry_append, Slots.tell?_cons]
    obtain ⟨afterKey, q, hkey, hcolon⟩ := exists_key_written key
      (bytesOf i.write ++ (bytesOf (behindComma '\x7d' (writeEntries members)) ++ rest))
      (p.advance 0x22)
    exact readMembers_member (nextKey_first hkey) hcolon (endsNumeral_behindComma (by decide) _ _)
      fun next q => readMembers_behindComma next (Nat.lt_of_succ_lt_succ hfuel) rest q

end

/-! ### Lists -/

def Values.items : (fields : List (String × Kind)) → Values fields → List Item
  | [], _ => []
  | (_, kind) :: fields, (value, values) => kind.item value :: Values.items fields values

def Values.Fit : (fields : List (String × Kind)) → Values fields → Prop
  | [], _ => True
  | (_, kind) :: fields, (value, values) => kind.Fits value ∧ Values.Fit fields values

def Values.ofItems? : (fields : List (String × Kind)) → List Item → Option (Values fields)
  | [], [] => some ()
  | (_, kind) :: fields, i :: items =>
    (kind.value? i).bind fun value => (Values.ofItems? fields items).map (value, ·)
  | _, _ => none

theorem Values.ofItems?_eq_some_iff {items : List Item} {values : Values fields} :
    Values.ofItems? fields items = some values ↔
      items = Values.items fields values ∧ Values.Fit fields values := by
  induction fields generalizing items with
  | nil => cases items <;> simp [ofItems?, Values.items, Fit]
  | cons field fields ih =>
    obtain ⟨name, kind⟩ := field
    obtain ⟨value, values⟩ := values
    cases items with
    | nil => simp [ofItems?, Values.items]
    | cons i items =>
      have hboth :
          Values.ofItems? ((name, kind) :: fields) (i :: items) = some (value, values) ↔
            kind.value? i = some value ∧ Values.ofItems? fields items = some values := by
        simp only [ofItems?, Option.bind_eq_some_iff, Option.map_eq_some_iff]
        constructor
        · rintro ⟨v, hv, vs, hvs, he⟩
          obtain ⟨rfl, rfl⟩ := Prod.mk.inj he
          exact ⟨hv, hvs⟩
        · rintro ⟨hv, hvs⟩
          exact ⟨value, hv, values, hvs, rfl⟩
      rw [hboth, Kind.value?_eq_some_iff, ih, Values.items, Fit, List.cons.injEq]
      exact and_and_and_comm

section

variable {shape : Shape} {rest more : Bytes}

theorem nextElement_first {b : UInt8} (hspace : isSpace b = false) (hb : b ≠ 0x5D)
    (p : Position) : nextElement true ⟨b :: more, p⟩ = .ok (some ⟨b :: more, p⟩) := by
  unfold nextElement
  rw [skipSpace_eq_self hspace]
  simp only
  rw [if_neg (by simpa using hb), if_pos trivial]

theorem nextElement_behind {b : UInt8} (hspace : isSpace b = false) (hb : b ≠ 0x5D)
    (p : Position) :
    nextElement false ⟨0x2C :: b :: more, p⟩ = .ok (some ⟨b :: more, p.advance 0x2C⟩) := by
  have hnext : (⟨0x2C :: b :: more, p⟩ : Cursor).next = ⟨b :: more, p.advance 0x2C⟩ := rfl
  unfold nextElement
  rw [skipSpace_eq_self (by decide)]
  simp only [hnext]
  rw [skipSpace_eq_self hspace]
  simp only
  rw [if_neg (by decide), if_neg (by decide), if_pos (by decide), if_neg (by simpa using hb)]

theorem endList_refused {b : UInt8} (hspace : isSpace b = false) (hb : b ≠ 0x5D) (more : Bytes)
    (p : Position) : ∃ problem, endList ⟨b :: more, p⟩ = .error problem := by
  unfold endList
  rw [skipSpace_eq_self hspace]
  simp only
  rw [if_neg (by simpa using hb)]
  split
  · split
    · exact ⟨_, rfl⟩
    · exact ⟨_, rfl⟩
  · exact ⟨_, rfl⟩

theorem readElements_element {name : String} {kind : Kind} {index : Nat} {c : Cursor} {i : Item}
    {q : Position} {outcome : Option (Values fields)}
    (hnext : nextElement (index == 0) c = .ok (some ⟨bytesOf i.write ++ more, q⟩))
    (hends : EndsNumeral more)
    (hmore : ∀ p, Yields rest (readElements shape fields (index + 1) ⟨more, p⟩) outcome) :
    Yields rest (readElements shape ((name, kind) :: fields) index c)
      ((kind.value? i).bind fun value => outcome.map (value, ·)) := by
  have hread := Kind.read_item hends i q kind
  rw [readElements, hnext]
  simp only
  cases hvalue : kind.value? i with
  | none =>
    rw [hvalue] at hread
    obtain ⟨problem, hrefused⟩ := hread
    rw [hrefused]
    exact ⟨_, rfl⟩
  | some value =>
    rw [hvalue] at hread
    obtain ⟨q', hfound⟩ := hread
    have hmore' := hmore q'
    simp only [hfound, inPart]
    cases outcome with
    | none =>
      obtain ⟨problem, hrefused⟩ := hmore'
      rw [hrefused]
      exact ⟨_, rfl⟩
    | some values =>
      obtain ⟨p, hread⟩ := hmore'
      rw [hread]
      exact ⟨p, rfl⟩

theorem readElements_behindComma (shape : Shape) (fields : List (String × Kind))
    (items : List Item) (index : Nat) (rest : Bytes) (p : Position) :
    Yields rest
      (readElements shape fields (index + 1)
        ⟨bytesOf (behindComma ']' (writeItems items)) ++ rest, p⟩)
      (Values.ofItems? fields items) := by
  induction fields generalizing items index p with
  | nil =>
    cases items with
    | nil => exact ⟨p.advance 0x5D, rfl⟩
    | cons i items =>
      rw [writeItems, bytesOf_behindComma_cons]
      obtain ⟨problem, hrefused⟩ := endList_refused (b := 0x2C) (by decide) (by decide)
        (bytesOf i.write ++ (bytesOf (behindComma ']' (writeItems items)) ++ rest)) p
      exact ⟨problem, congrArg (Except.map fun c => ((), c)) hrefused⟩
  | cons field fields ih =>
    obtain ⟨name, kind⟩ := field
    cases items with
    | nil => exact ⟨_, rfl⟩
    | cons i items =>
      obtain ⟨b, written, hwritten, hbegins, hspace⟩ := i.exists_byte
      rw [writeItems, bytesOf_behindComma_cons]
      refine readElements_element (q := p.advance 0x2C) ?_
        (endsNumeral_behindComma (by decide) (writeItems items) rest)
        fun p => ih items (index + 1) p
      rw [hwritten, List.cons_append]
      exact nextElement_behind hspace hbegins.ne_close p

theorem readElements_intercalate (shape : Shape) (fields : List (String × Kind))
    (items : List Item) (rest : Bytes) (p : Position) :
    Yields rest
      (readElements shape fields 0
        ⟨bytesOf ([','].intercalate (writeItems items) ++ [']']) ++ rest, p⟩)
      (Values.ofItems? fields items) := by
  cases items with
  | nil =>
    cases fields with
    | nil => exact ⟨p.advance 0x5D, rfl⟩
    | cons field fields => exact ⟨_, rfl⟩
  | cons i items =>
    obtain ⟨b, written, hwritten, hbegins, hspace⟩ := i.exists_byte
    rw [writeItems, intercalate_append_close, Utf8.bytesOf_append, List.append_assoc]
    cases fields with
    | nil =>
      rw [hwritten, List.cons_append]
      obtain ⟨problem, hrefused⟩ := endList_refused hspace hbegins.ne_close
        (written ++ (bytesOf (behindComma ']' (writeItems items)) ++ rest)) p
      exact ⟨problem, congrArg (Except.map fun c => ((), c)) hrefused⟩
    | cons field fields =>
      obtain ⟨name, kind⟩ := field
      refine readElements_element (q := p) ?_
        (endsNumeral_behindComma (by decide) (writeItems items) rest)
        fun p => readElements_behindComma shape fields items 0 rest p
      rw [hwritten, List.cons_append]
      exact nextElement_first hspace hbegins.ne_close p

end

/-! ### Records -/

variable {shape : Shape}

/-- A text that holds a record and nothing behind it is read as the record, or refused. -/
theorem readRecord_of_yields {text : Bytes} {expected : Option (Values shape.fields)}
    (h : Yields [] (readRecordHere shape (.start text)) expected) :
    (readRecord shape text).toOption = expected := by
  unfold readRecord
  cases expected with
  | none =>
    obtain ⟨problem, hrefused⟩ := h
    rw [hrefused]
    rfl
  | some values =>
    obtain ⟨q, hread⟩ := h
    rw [hread]
    rfl

theorem readRecordHere_object (shape : Shape) (object : List (String × Item)) :
    Yields [] (readRecordHere shape (.start (Utf8.encode (Item.object object).toText)))
      ((Slots.empty shape.fields).tell? object) := by
  have hlength : object.length <
      (bytesOf ('\x7b' :: ([','].intercalate (writeEntries object) ++ ['\x7d']))).length := by
    cases object with
    | nil => decide
    | cons member object =>
      have hmore := length_lt_behindComma '\x7d' (writeEntries object)
      rw [writeEntries, intercalate_append_close, Utf8.bytesOf_cons_ascii (by decide),
        Utf8.bytesOf_append]
      simp only [List.length_cons, List.length_append, length_writeEntries] at hmore ⊢
      omega
  have hread := readMembers_intercalate (Slots.empty shape.fields) hlength []
    (Position.start.advance 0x7B)
  unfold Item.toText
  rw [Utf8.encode_eq, String.toList_ofList]
  rw [List.append_nil] at hread
  exact hread

/-- **Reading an object comes to what its members make of the slots.** -/
theorem readRecord_object (shape : Shape) (object : List (String × Item)) :
    (readRecord shape (Utf8.encode (Item.object object).toText)).toOption =
      (Slots.empty shape.fields).tell? object :=
  readRecord_of_yields (readRecordHere_object shape object)

/-- **Reading a list comes to what the fields take of its elements.** -/
theorem readRecord_list (shape : Shape) (items : List Item) :
    (readRecord shape (Utf8.encode (Item.list items).toText)).toOption =
      Values.ofItems? shape.fields items := by
  have hread := readElements_intercalate shape shape.fields items []
    (Position.start.advance 0x5B)
  apply readRecord_of_yields
  unfold Item.toText
  rw [Utf8.encode_eq, String.toList_ofList]
  rw [List.append_nil] at hread
  exact hread

end UserAccounts.Json
