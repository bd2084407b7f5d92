/-
# Identifiers are read as they are written

Each byte of an identifier is written as two hexadecimal digits, and the digits in
groups of 8, 4, 4, 4 and 12 with dashes between them. No digit is a dash, so the text
falls apart into these groups again, and their digits spell the sixteen bytes
(`Id.ofText?_toText`).

Key theorems: `Id.bytesOfDigits_flatMap`, `Id.splitOn_toText`, `Id.ofText?_toText`.
-/
import UserAccounts.User.Id

namespace UserAccounts.Id

/-! ### Digits -/

theorem hexValue?_hexDigit {n : Nat} (h : n < 16) : Text.hexValue? (Text.hexDigit n) = some n := by
  revert n
  decide

theorem hexDigit_ne_dash {n : Nat} (h : n < 16) : Text.hexDigit n ≠ '-' := by
  revert n
  decide

theorem bytesOfDigits_flatMap (bytes : Bytes) :
    bytesOfDigits (bytes.flatMap byteDigits) = some bytes := by
  induction bytes with
  | nil => rfl
  | cons b bytes ih =>
    have hb : b.toNat < 256 := b.toNat_lt
    have hsum : b.toNat / 16 * 16 + b.toNat % 16 = b.toNat := by omega
    have hhigh := hexValue?_hexDigit (show b.toNat / 16 < 16 by omega)
    have hlow := hexValue?_hexDigit (show b.toNat % 16 < 16 by omega)
    simp only [List.flatMap_cons, byteDigits, List.cons_append, List.nil_append, bytesOfDigits,
      hhigh, hlow, ih, Option.bind_eq_bind, Option.bind_some, hsum, UInt8.ofNat_toNat]

theorem dash_notMem (bytes : Bytes) : '-' ∉ bytes.flatMap byteDigits := by
  rw [List.mem_flatMap]
  rintro ⟨b, -, hmem⟩
  have hb : b.toNat < 256 := b.toNat_lt
  simp only [byteDigits, List.mem_cons, List.not_mem_nil, or_false] at hmem
  rcases hmem with he | he
  · exact hexDigit_ne_dash (by omega) he.symm
  · exact hexDigit_ne_dash (by omega) he.symm

theorem length_flatMap_byteDigits (bytes : Bytes) :
    (bytes.flatMap byteDigits).length = 2 * bytes.length := by
  induction bytes with
  | nil => rfl
  | cons b bytes ih =>
    rw [List.flatMap_cons, List.length_append, ih]
    simp only [byteDigits, List.length_cons, List.length_nil]
    omega

/-! ### Groups -/

def groups (id : Id) : List (List Char) :=
  [id.group 0 4, id.group 4 2, id.group 6 2, id.group 8 2, id.group 10 6]

theorem splitOn_toText (id : Id) : id.toText.toList.splitOn '-' = id.groups := by
  have hjoined : id.toText.toList = ['-'].intercalate id.groups := by
    unfold toText
    rw [String.toList_ofList]
    simp [groups, List.intercalate, List.intersperse]
  rw [hjoined]
  refine List.splitOn_intercalate '-' (fun part hmem => ?_) (List.cons_ne_nil _ _)
  simp only [groups, List.mem_cons, List.not_mem_nil, or_false] at hmem
  rcases hmem with rfl | rfl | rfl | rfl | rfl
  all_goals exact dash_notMem _

theorem length_group (id : Id) {start count : Nat} (h : start + count ≤ 16) :
    (id.group start count).length = 2 * count := by
  unfold group
  rw [length_flatMap_byteDigits, List.length_take, List.length_drop, Vector.length_toList]
  omega

theorem flatten_groups (id : Id) : id.groups.flatten = id.bytes.toList.flatMap byteDigits := by
  have hlength : id.bytes.toList.length = 16 := id.bytes.length_toList
  have hsplit : ∀ start count, (id.bytes.toList.drop start).take count ++
      id.bytes.toList.drop (start + count) = id.bytes.toList.drop start := by
    intro start count
    rw [← List.drop_drop, List.take_append_drop]
  have hlast : (id.bytes.toList.drop 10).take 6 = id.bytes.toList.drop 10 :=
    List.take_of_length_le (by rw [List.length_drop]; omega)
  simp only [groups, group, List.flatten_cons, List.flatten_nil, List.append_nil,
    ← List.flatMap_append]
  rw [hlast, hsplit 8 2, hsplit 6 2, hsplit 4 2, hsplit 0 4, List.drop_zero]

theorem ofBytes?_toList (id : Id) : ofBytes? id.bytes.toList = some id := by
  obtain ⟨⟨array, hsize⟩⟩ := id
  unfold ofBytes?
  exact dif_pos hsize

/-- **An identifier is read from its text.** -/
theorem ofText?_toText (id : Id) : ofText? id.toText = some id := by
  have hlengths : id.groups.map (·.length) = [8, 4, 4, 4, 12] := by
    simp only [groups, List.map_cons, List.map_nil]
    rw [length_group id (by decide), length_group id (by decide), length_group id (by decide),
      length_group id (by decide), length_group id (by decide)]
  unfold ofText?
  rw [splitOn_toText]
  simp only
  rw [if_pos hlengths, flatten_groups, bytesOfDigits_flatMap]
  exact ofBytes?_toList id

end UserAccounts.Id
