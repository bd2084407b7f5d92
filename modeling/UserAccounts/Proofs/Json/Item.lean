/-
# Any value where a field is read

A value may stand in a text that the service never writes: a word, a number of any size
and spelling, a list, or objects one inside the other (`Item`). A field that is a text
takes the strings, and one that is a whole number of some type takes the whole numbers
within its limits (`Kind.value?`); it is read of a value exactly if it takes it, and
otherwise reading is refused (`Kind.read_item`).

Key definitions: `Item`, `Item.write`, `behindComma`, `Kind.value?`, `Yields`.
Key theorems: `endsNumeral_behindComma`, `Kind.value?_eq_some_iff`, `Kind.read_item`.
-/
import UserAccounts.Proofs.Json.Record
import UserAccounts.Proofs.Text.Quoted

namespace UserAccounts.Json

open Utf8 (bytesOf)

/-! ### Values and their texts -/

/-- Any value. A number that is not written as a whole number, because it has a fraction or an
exponent, or because it is a zero with a sign, is kept as it is spelled. -/
inductive Item where
  | null
  | boolean (b : Bool)
  | integer (n : Int)
  | decimal (chars : List Char) (spelled : IsNumeral chars) (other : ∀ n, chars ≠ Text.signed n)
  | text (s : String)
  | list (items : List Item)
  | object (members : List (String × Item))

mutual

def Item.write : Item → List Char
  | .null => "null".toList
  | .boolean true => "true".toList
  | .boolean false => "false".toList
  | .integer n => Text.signed n
  | .decimal chars _ _ => chars
  | .text s => writeString s
  | .list items => '[' :: ([','].intercalate (writeItems items) ++ [']'])
  | .object members => '\x7b' :: ([','].intercalate (writeEntries members) ++ ['\x7d'])

def writeItems : List Item → List (List Char)
  | [] => []
  | i :: items => i.write :: writeItems items

def writeEntries : List (String × Item) → List (List Char)
  | [] => []
  | (key, i) :: members => (writeString key ++ ':' :: i.write) :: writeEntries members

end

def Item.toText (i : Item) : String :=
  String.ofList i.write

/-- What stands behind the first part of a list or an object: each other part behind a comma, and
the bracket that closes it. -/
def behindComma (close : Char) (parts : List (List Char)) : List Char :=
  parts.flatMap (',' :: ·) ++ [close]

theorem behindComma_cons (close : Char) (part : List Char) (parts : List (List Char)) :
    behindComma close (part :: parts) = ',' :: (part ++ behindComma close parts) := by
  unfold behindComma
  rw [List.flatMap_cons, List.cons_append, List.cons_append, List.append_assoc]

theorem intercalate_append_close (part : List Char) (parts : List (List Char)) (close : Char) :
    [','].intercalate (part :: parts) ++ [close] = part ++ behindComma close parts := by
  induction parts generalizing part with
  | nil => rw [List.intercalate_singleton, behindComma, List.flatMap_nil, List.nil_append]
  | cons next parts ih =>
    rw [List.intercalate_cons_cons, List.append_assoc, ih next, List.append_assoc, behindComma_cons]
    rfl

theorem bytesOf_behindComma_cons (close : Char) (part : List Char) (parts : List (List Char))
    (rest : Bytes) :
    bytesOf (behindComma close (part :: parts)) ++ rest =
      0x2C :: (bytesOf part ++ (bytesOf (behindComma close parts) ++ rest)) := by
  rw [behindComma_cons, Utf8.bytesOf_cons_ascii (by decide), Utf8.bytesOf_append, List.cons_append,
    List.append_assoc]
  rfl

theorem endsNumeral_behindComma {close : Char} (h : close ∈ [']', '\x7d'])
    (parts : List (List Char)) (rest : Bytes) :
    EndsNumeral (bytesOf (behindComma close parts) ++ rest) := by
  have hfirst : ∀ {b : UInt8} {more : Bytes}, b ∈ [0x2C, 0x5D, 0x7D] → EndsNumeral (b :: more) := by
    intro b more hb d hd
    obtain rfl := Option.some.inj hd
    simp only [List.mem_cons, List.not_mem_nil, or_false] at hb
    rcases hb with rfl | rfl | rfl <;> decide
  cases parts with
  | nil =>
    simp only [List.mem_cons, List.not_mem_nil, or_false] at h
    rcases h with rfl | rfl
    · exact hfirst (by decide)
    · exact hfirst (by decide)
  | cons part parts =>
    rw [bytesOf_behindComma_cons]
    exact hfirst (by decide)

/-! ### Fields -/

/-- A value of a kind as any value. -/
def Kind.item : (kind : Kind) → kind.Value → Item
  | .text, s => .text s
  | .integer _, n => .integer n

theorem Kind.write_toJson : ∀ {kind : Kind} (value : kind.Value),
    (kind.toJson value).write = (kind.item value).write
  | .text, _ => rfl
  | .integer _, _ => rfl

instance (n : Int) : Decidable (FitsWord n) :=
  inferInstanceAs (Decidable (_ ∧ _))

/-- The value of a kind that a value is, if it is one. -/
def Kind.value? : (kind : Kind) → Item → Option kind.Value
  | .text, .text s => some s
  | .integer type, .integer n =>
    if type.low ≤ n ∧ n ≤ type.high ∧ FitsWord n then some n else none
  | _, _ => none

theorem Kind.value?_eq_some_iff {kind : Kind} {i : Item} {value : kind.Value} :
    kind.value? i = some value ↔ i = kind.item value ∧ kind.Fits value := by
  cases kind with
  | text => cases i <;> simp [Kind.value?, Kind.item, Kind.Fits]
  | integer type =>
    cases i with
    | integer n =>
      by_cases h : type.low ≤ n ∧ n ≤ type.high ∧ FitsWord n
      · simp only [Kind.value?, if_pos h, Option.some_inj, Kind.item, Item.integer.injEq,
          Kind.Fits]
        constructor
        · rintro rfl
          exact ⟨rfl, h⟩
        · exact fun he => he.1
      · simp only [Kind.value?, if_neg h, Kind.item, Item.integer.injEq, Kind.Fits,
          reduceCtorEq, false_iff]
        rintro ⟨rfl, hfits⟩
        exact h hfits
    | _ => simp [Kind.value?, Kind.item]

/-! ### What reading comes to -/

/-- Reading comes to the value and leaves the rest of the text, or is refused if there is no
value. -/
def Yields {α : Type} (rest : Bytes) (outcome : Except Problem (α × Cursor)) : Option α → Prop
  | some a => ∃ q, outcome = .ok (a, ⟨rest, q⟩)
  | none => ∃ problem, outcome = .error problem

/-! ### First bytes -/

/-- The byte that a value begins with. -/
def Item.Begins (b : UInt8) : Item → Prop
  | .null => b = 0x6E
  | .boolean true => b = 0x74
  | .boolean false => b = 0x66
  | .integer _ => (b == 0x2D || isDigitByte b) = true
  | .decimal _ _ _ => (b == 0x2D || isDigitByte b) = true
  | .text _ => b = 0x22
  | .list _ => b = 0x5B
  | .object _ => b = 0x7B

theorem Item.exists_byte (i : Item) :
    ∃ b more, bytesOf i.write = b :: more ∧ i.Begins b ∧ isSpace b = false := by
  cases i with
  | null => exact ⟨_, _, rfl, rfl, rfl⟩
  | boolean b =>
    cases b with
    | true => exact ⟨_, _, rfl, rfl, rfl⟩
    | false => exact ⟨_, _, rfl, rfl, rfl⟩
  | integer n => exact exists_numeral_byte (isNumeral_signed n)
  | decimal chars spelled other => exact exists_numeral_byte spelled
  | text s => exact ⟨0x22, _, rfl, rfl, rfl⟩
  | list items => exact ⟨0x5B, _, rfl, rfl, rfl⟩
  | object members => exact ⟨0x7B, _, rfl, rfl, rfl⟩

theorem ne_of_numeralByte {b d : UInt8} (h : (b == 0x2D || isDigitByte b) = true)
    (hd : (d == 0x2D || isDigitByte d) = false) : b ≠ d := by
  rintro rfl
  rw [h] at hd
  cases hd

theorem Item.Begins.ne_close {b : UInt8} {i : Item} (h : i.Begins b) : b ≠ 0x5D := by
  cases i with
  | null => rw [h]; decide
  | boolean value => cases value <;> (rw [h]; decide)
  | integer n => exact ne_of_numeralByte h (by decide)
  | decimal => exact ne_of_numeralByte h (by decide)
  | text s => rw [h]; decide
  | list items => rw [h]; decide
  | object members => rw [h]; decide

/-! ### Reading -/

theorem signed_inj {m n : Int} (h : Text.signed m = Text.signed n) : m = n := by
  have hcomma : Text.EndsField [','] := ⟨',', [], rfl, .inl rfl⟩
  refine (Text.signed_toldApart hcomma hcomma ?_).1
  rw [Text.toList_toString, Text.toList_toString, h]

section

variable {b : UInt8} {rest : Bytes}

theorem readText_refused (hspace : isSpace b = false) (hb : b ≠ 0x22) (wanted : String)
    (p : Position) : ∃ problem, readText wanted ⟨b :: rest, p⟩ = .error problem := by
  unfold readText
  rw [skipSpace_eq_self hspace]
  simp only
  rw [if_neg (by simpa using hb)]
  exact ⟨_, rfl⟩

theorem readIntegerOf_refused (hspace : isSpace b = false)
    (hb : (b == 0x2D || isDigitByte b) = false) (type : IntegerType) (p : Position) :
    ∃ problem, readIntegerOf type ⟨b :: rest, p⟩ = .error problem := by
  unfold readIntegerOf
  rw [skipSpace_eq_self hspace]
  simp only
  rw [if_neg (by simp [hb])]
  exact ⟨_, rfl⟩

/-- A number that is not a whole number within the limits is refused. -/
theorem readIntegerOf_numeral_refused {chars : List Char} (h : IsNumeral chars)
    (hrest : EndsNumeral rest) {type : IntegerType}
    (hnone : ∀ n, chars = Text.signed n → ¬ (type.low ≤ n ∧ n ≤ type.high ∧ FitsWord n))
    (p : Position) :
    ∃ problem, readIntegerOf type ⟨bytesOf chars ++ rest, p⟩ = .error problem := by
  obtain ⟨b, more, hwritten, hnumeral, hspace⟩ := exists_numeral_byte h
  have hinteger : ∀ {n after}, readNumber ⟨bytesOf chars ++ rest, p⟩ = .ok (.integer n, after) →
      ¬ (type.low ≤ n ∧ n ≤ type.high) := by
    rintro n after hread ⟨hlow, hhigh⟩
    obtain ⟨hchars, hfits⟩ := integer_of_readNumber h hrest hread
    exact hnone n hchars ⟨hlow, hhigh, hfits⟩
  rw [hwritten, List.cons_append] at hinteger ⊢
  unfold readIntegerOf
  rw [skipSpace_eq_self hspace]
  simp only
  rw [if_pos hnumeral]
  cases hread : readNumber ⟨b :: (more ++ rest), p⟩ with
  | error problem => exact ⟨problem, rfl⟩
  | ok found =>
    obtain ⟨number, after⟩ := found
    cases number with
    | floating f => exact ⟨_, rfl⟩
    | integer n =>
      simp only
      rw [if_neg (by simpa using hinteger hread)]
      exact ⟨_, rfl⟩

end

theorem readText_item {rest : Bytes} (i : Item) (p : Position) :
    Yields rest (Kind.text.read ⟨bytesOf i.write ++ rest, p⟩) (Kind.text.value? i) := by
  obtain ⟨b, more, hwritten, hbegins, hspace⟩ := i.exists_byte
  have hrefused : b ≠ 0x22 →
      ∃ problem, Kind.text.read ⟨bytesOf i.write ++ rest, p⟩ = .error problem := by
    intro hb
    rw [hwritten, List.cons_append]
    exact readText_refused hspace hb "a string" p
  cases i with
  | text s => exact readText_written "a string" s rest p
  | null => exact hrefused (by rw [hbegins]; decide)
  | boolean value => exact hrefused (by cases value <;> (rw [hbegins]; decide))
  | integer n => exact hrefused (ne_of_numeralByte hbegins (by decide))
  | decimal => exact hrefused (ne_of_numeralByte hbegins (by decide))
  | list items => exact hrefused (by rw [hbegins]; decide)
  | object members => exact hrefused (by rw [hbegins]; decide)

theorem readIntegerOf_item {rest : Bytes} (hrest : EndsNumeral rest) (type : IntegerType)
    (i : Item) (p : Position) :
    Yields rest ((Kind.integer type).read ⟨bytesOf i.write ++ rest, p⟩)
      ((Kind.integer type).value? i) := by
  obtain ⟨b, more, hwritten, hbegins, hspace⟩ := i.exists_byte
  have hrefused : (b == 0x2D || isDigitByte b) = false →
      ∃ problem, (Kind.integer type).read ⟨bytesOf i.write ++ rest, p⟩ = .error problem := by
    intro hb
    rw [hwritten, List.cons_append]
    exact readIntegerOf_refused hspace hb type p
  cases i with
  | text s => exact hrefused (by rw [hbegins]; decide)
  | null => exact hrefused (by rw [hbegins]; decide)
  | boolean value => exact hrefused (by cases value <;> (rw [hbegins]; decide))
  | integer n =>
    by_cases hfits : type.low ≤ n ∧ n ≤ type.high ∧ FitsWord n
    · have hvalue : (Kind.integer type).value? (.integer n) = some n := if_pos hfits
      rw [hvalue]
      exact readIntegerOf_written hfits.1 hfits.2.1 hfits.2.2 hrest p
    · have hvalue : (Kind.integer type).value? (.integer n) = none := if_neg hfits
      rw [hvalue]
      apply readIntegerOf_numeral_refused (isNumeral_signed n) hrest
      intro k hk
      rwa [← signed_inj hk]
  | decimal chars spelled other =>
    apply readIntegerOf_numeral_refused spelled hrest
    exact fun n hn => absurd hn (other n)
  | list items => exact hrefused (by rw [hbegins]; decide)
  | object members => exact hrefused (by rw [hbegins]; decide)

/-- **A field is read of a value exactly if it takes it.** -/
theorem Kind.read_item {rest : Bytes} (hrest : EndsNumeral rest) (i : Item) (p : Position) :
    ∀ kind : Kind, Yields rest (kind.read ⟨bytesOf i.write ++ rest, p⟩) (kind.value? i)
  | .text => readText_item i p
  | .integer type => readIntegerOf_item hrest type i p

end UserAccounts.Json
