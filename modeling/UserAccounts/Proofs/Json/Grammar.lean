/-
# What the service writes is well formed

A text is well formed if the grammar of JSON derives it (`IsText`), of which nothing
is said in terms of a reader: space may stand around a value and between the tokens, a
number has no zeros in front and may have a fraction and an exponent, and inside a
string stands no control character, and no quote or backslash but as part of an escape.

What the service writes uses a part of the grammar only. Every character of a string,
as it stands or escaped, is one that the grammar allows (`isSpelling_escaped`), and so
by induction over the value is every value (`Value.isText`).

Key definitions: `IsSpelling`, `Derives`, `IsText`.
Key theorems: `isSpelling_escaped`, `Value.derives`, `Value.isText`.
-/
import Mathlib.Tactic.SplitIfs
import UserAccounts.Json.Value
import UserAccounts.Proofs.Json.Numeral

namespace UserAccounts.Json

/-! ### The grammar -/

/-- Space, as it may stand around a token. -/
def IsGap (chars : List Char) : Prop :=
  ∀ c ∈ chars, c = ' ' ∨ c = '\t' ∨ c = '\n' ∨ c = '\r'

def hexDigits : List Char := "0123456789abcdefABCDEF".toList

/-- The letters of short escapes. -/
def shortEscapes : List Char := ['"', '\\', '/', 'b', 'f', 'n', 'r', 't']

/-- What may stand between the quotes of a string. -/
inductive IsSpelling : List Char → Prop where
  | nil : IsSpelling []
  | plain {c : Char} {rest : List Char} (hlow : 0x20 ≤ c.toNat) (hquote : c ≠ '"')
      (hslash : c ≠ '\\') (hrest : IsSpelling rest) :
    IsSpelling (c :: rest)
  | short {c : Char} {rest : List Char} (hc : c ∈ shortEscapes) (hrest : IsSpelling rest) :
    IsSpelling ('\\' :: c :: rest)
  | digits {a b c d : Char} {rest : List Char} (hdigits : ∀ x ∈ [a, b, c, d], x ∈ hexDigits)
      (hrest : IsSpelling rest) :
    IsSpelling ('\\' :: 'u' :: a :: b :: c :: d :: rest)

example : ¬ IsSpelling ['\n'] := by
  intro h
  cases h with
  | plain hlow => exact absurd hlow (by decide)

/-- What the grammar derives texts for. -/
inductive Category where
  | value
  /-- A value with space around it. -/
  | element
  | elements
  /-- A key and its value, with space around them. -/
  | member
  | members

/-- The grammar derives the characters. -/
inductive Derives : Category → List Char → Prop where
  | null : Derives .value "null".toList
  | isTrue : Derives .value "true".toList
  | isFalse : Derives .value "false".toList
  | numeral {chars : List Char} (h : IsNumeral chars) : Derives .value chars
  | text {chars : List Char} (h : IsSpelling chars) : Derives .value ('"' :: chars ++ ['"'])
  | noElements {gap : List Char} (h : IsGap gap) : Derives .value ('[' :: gap ++ [']'])
  | list {chars : List Char} (h : Derives .elements chars) : Derives .value ('[' :: chars ++ [']'])
  | noMembers {gap : List Char} (h : IsGap gap) : Derives .value ('\x7b' :: gap ++ ['\x7d'])
  | object {chars : List Char} (h : Derives .members chars) :
    Derives .value ('\x7b' :: chars ++ ['\x7d'])
  | element {left right chars : List Char} (hleft : IsGap left) (h : Derives .value chars)
      (hright : IsGap right) :
    Derives .element (left ++ chars ++ right)
  | oneElement {chars : List Char} (h : Derives .element chars) : Derives .elements chars
  | moreElements {chars more : List Char} (h : Derives .element chars)
      (hmore : Derives .elements more) :
    Derives .elements (chars ++ ',' :: more)
  | member {left right key chars : List Char} (hleft : IsGap left) (hkey : IsSpelling key)
      (hright : IsGap right) (h : Derives .element chars) :
    Derives .member (left ++ ('"' :: key ++ ['"']) ++ right ++ ':' :: chars)
  | oneMember {chars : List Char} (h : Derives .member chars) : Derives .members chars
  | moreMembers {chars more : List Char} (h : Derives .member chars)
      (hmore : Derives .members more) :
    Derives .members (chars ++ ',' :: more)

/-- The text is well formed. -/
def IsText (text : String) : Prop :=
  Derives .element text.toList

theorem isGap_nil : IsGap [] := fun _ hmem => absurd hmem List.not_mem_nil

theorem Derives.bare {chars : List Char} (h : Derives .value chars) : Derives .element chars := by
  have hbare := Derives.element isGap_nil h isGap_nil
  rwa [List.nil_append, List.append_nil] at hbare

theorem Derives.bareMember {key chars : List Char} (hkey : IsSpelling key)
    (h : Derives .value chars) : Derives .member (('"' :: key ++ ['"']) ++ ':' :: chars) := by
  have hbare := Derives.member isGap_nil hkey isGap_nil h.bare
  rwa [List.nil_append, List.append_nil] at hbare

/-! ### Strings that are written -/

theorem hexDigit_mem : ∀ n < 16, Text.hexDigit n ∈ hexDigits := by
  decide

theorem isSpelling_escaped (c : Char) {rest : List Char} (h : IsSpelling rest) :
    IsSpelling (escaped c ++ rest) := by
  unfold escaped
  split_ifs with hquote hslash hline hreturn htab hback hform hcontrol
  · exact .short (by decide) h
  · exact .short (by decide) h
  · exact .short (by decide) h
  · exact .short (by decide) h
  · exact .short (by decide) h
  · exact .short (by decide) h
  · exact .short (by decide) h
  · refine .digits ?_ h
    have hzero : '0' ∈ hexDigits := by decide
    simp only [List.forall_mem_cons]
    exact ⟨hzero, hzero, hexDigit_mem _ (by omega), hexDigit_mem _ (by omega), by simp⟩
  · exact .plain (Nat.le_of_not_lt hcontrol) hquote hslash h

theorem isSpelling_flatMap (chars : List Char) : IsSpelling (chars.flatMap escaped) := by
  induction chars with
  | nil => exact .nil
  | cons c chars ih =>
    rw [List.flatMap_cons]
    exact isSpelling_escaped c ih

theorem derives_writeString (s : String) : Derives .value (writeString s) :=
  .text (isSpelling_flatMap s.toList)

/-! ### Values that are written -/

mutual

theorem Value.derives : ∀ value : Value, Derives .value value.write
  | .number n => .numeral (isNumeral_signed n)
  | .text s => derives_writeString s
  | .object members => by
    show Derives .value ('\x7b' :: writeMembers members)
    rcases derives_writeMembers members with rfl | ⟨chars, hwritten, -, hchars⟩
    · exact .noMembers isGap_nil
    · rw [hwritten]
      exact .object hchars

theorem derives_writeMembers : ∀ members : List (String × Value), members = [] ∨
    ∃ chars, writeMembers members = chars ++ ['\x7d'] ∧
      writeMoreMembers members = ',' :: chars ++ ['\x7d'] ∧ Derives .members chars
  | [] => .inl rfl
  | (key, value) :: members => by
    have hmember : Derives .member (writeString key ++ ':' :: value.write) :=
      .bareMember (isSpelling_flatMap key.toList) value.derives
    have hwritten : writeMembers ((key, value) :: members) =
        writeString key ++ ':' :: value.write ++ writeMoreMembers members := rfl
    have hbehind : writeMoreMembers ((key, value) :: members) =
        ',' :: writeMembers ((key, value) :: members) := rfl
    right
    rcases derives_writeMembers members with rfl | ⟨chars, -, hmore, hchars⟩
    · exact ⟨_, hwritten, hbehind, .oneMember hmember⟩
    · refine ⟨writeString key ++ ':' :: value.write ++ ',' :: chars, ?_, ?_,
        .moreMembers hmember hchars⟩
      · rw [hwritten, hmore]
        simp
      · rw [hbehind, hwritten, hmore]
        simp

end

/-- **What is written is well formed.** -/
theorem Value.isText (value : Value) : IsText value.toText := by
  unfold IsText Value.toText
  rw [String.toList_ofList]
  exact value.derives.bare

end UserAccounts.Json
