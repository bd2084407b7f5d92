/-
# Any value is read as it was written

Without knowing beforehand what a text spells, reading gives the value that was written
(`Value.tree`), if its numbers fit 64 bits and it is not too deep (`Value.FitsWithin`).
The induction is on the depth that is left: a reader that reads the values of some
members as they were written reads the members so (`membersWith_written`), and that is
the reader with one less.

Key definitions: `Value.tree`, `Value.FitsWithin`.
Key theorems: `membersWith_written`, `readTree_written`, `readDocument_written`.
-/
import UserAccounts.Json.Tree
import UserAccounts.Proofs.Json.Record

namespace UserAccounts.Json

open Utf8 (bytesOf)

mutual

/-- A value as it is read. -/
def Value.tree : Value → Tree
  | .number n => .number (.integer n)
  | .text s => .text s
  | .object members => .object (treesOf members)

def treesOf : List (String × Value) → List (String × Tree)
  | [] => []
  | (key, value) :: members => (key, value.tree) :: treesOf members

end

theorem treesOf_texts (entries : List (String × String)) :
    treesOf (entries.map fun entry => (entry.1, .text entry.2)) =
      entries.map fun entry => (entry.1, .text entry.2) := by
  induction entries with
  | nil => rfl
  | cons entry entries ih =>
    simp only [List.map_cons, treesOf, ih, Value.tree]

/-- The numbers fit 64 bits, and at most `depth` objects stand one inside the other. -/
def Value.FitsWithin : Nat → Value → Prop
  | _, .number n => FitsWord n
  | _, .text _ => True
  | 0, .object _ => False
  | depth + 1, .object members => ∀ member ∈ members, member.2.FitsWithin depth

@[simp] theorem Value.fitsWithin_text (depth : Nat) (s : String) :
    (Value.text s).FitsWithin depth := by
  rw [FitsWithin]
  trivial

@[simp] theorem Value.fitsWithin_object {depth : Nat} {members : List (String × Value)} :
    (Value.object members).FitsWithin (depth + 1) ↔
      ∀ member ∈ members, member.2.FitsWithin depth := by
  rw [FitsWithin]

/-! ### Members -/

/-- What stands behind a member of an object: a comma or the end of the object. -/
def EndsValue (rest : Bytes) : Prop :=
  ∃ b more, rest = b :: more ∧ (b = 0x2C ∨ b = 0x7D)

theorem EndsValue.endsNumeral {rest : Bytes} (h : EndsValue rest) : EndsNumeral rest := by
  obtain ⟨b, more, rfl, hb⟩ := h
  intro d hd
  obtain rfl := Option.some.inj hd
  rcases hb with rfl | rfl <;> decide

theorem endsValue_writeMoreMembers (members : List (String × Value)) (rest : Bytes) :
    EndsValue (bytesOf (writeMoreMembers members) ++ rest) := by
  cases members with
  | nil => exact ⟨0x7D, rest, rfl, .inr rfl⟩
  | cons member members => exact ⟨0x2C, _, rfl, .inl rfl⟩

theorem bytesOf_writeMembers (key : String) (value : Value) (members : List (String × Value))
    (rest : Bytes) :
    bytesOf (writeMembers ((key, value) :: members)) ++ rest =
      0x22 :: (bytesOf (key.toList.flatMap escaped) ++
        0x22 :: 0x3A :: (bytesOf value.write ++ (bytesOf (writeMoreMembers members) ++ rest))) := by
  show bytesOf (writeString key ++ ':' :: value.write ++ writeMoreMembers members) ++ rest = _
  rw [Utf8.bytesOf_append, Utf8.bytesOf_append, List.append_assoc, List.append_assoc,
    bytesOf_writeString, Utf8.bytesOf_cons_ascii (by decide), List.cons_append]
  rfl

/-- The members behind the first are written as if they were the first, behind a comma. -/
theorem bytesOf_writeMoreMembers (member : String × Value) (members : List (String × Value))
    (rest : Bytes) :
    bytesOf (writeMoreMembers (member :: members)) ++ rest =
      0x2C :: (bytesOf (writeMembers (member :: members)) ++ rest) := rfl

theorem length_lt_writeMoreMembers (members : List (String × Value)) :
    members.length < (bytesOf (writeMoreMembers members)).length := by
  induction members with
  | nil => decide
  | cons member members ih =>
    have hbytes := bytesOf_writeMoreMembers member members []
    obtain ⟨key, value⟩ := member
    rw [bytesOf_writeMembers, List.append_nil, List.append_nil] at hbytes
    rw [hbytes]
    simp only [List.length_cons, List.length_append]
    omega

/-- The reader reads the value as it was written, where something stands behind it that ends a
value. -/
def ReadsBack (read : Cursor → Option (Tree × Cursor)) (value : Value) : Prop :=
  ∀ rest, EndsValue rest → ∀ p : Position,
    ∃ q, read ⟨bytesOf value.write ++ rest, p⟩ = some (value.tree, ⟨rest, q⟩)

section

variable {read : Cursor → Option (Tree × Cursor)} {members : List (String × Value)}

theorem membersWith_step {fuel : Nat} {first : Bool}
    {c afterKey afterColon afterValue after : Cursor} {key : String} {value : Tree}
    {more : List (String × Tree)}
    (hkey : nextKey first c = .ok (some (key, afterKey)))
    (hcolon : readColon afterKey = .ok afterColon)
    (hvalue : read afterColon = some (value, afterValue))
    (hmore : membersWith read fuel false afterValue = some (more, after)) :
    membersWith read (fuel + 1) first c = some ((key, value) :: more, after) := by
  have hsome : (readColon afterKey).toOption = some afterColon := by rw [hcolon]; rfl
  simp only [membersWith, hkey, hsome, hvalue, hmore, bind, Option.bind]

theorem ReadsBack.member {value : Value} (h : ReadsBack read value) (key : String) {rest : Bytes}
    (hrest : EndsValue rest) (p : Position) :
    ∃ afterKey afterColon q,
      readString ⟨bytesOf (key.toList.flatMap escaped) ++
        0x22 :: 0x3A :: (bytesOf value.write ++ rest), p⟩ = .ok (key, afterKey) ∧
      readColon afterKey = .ok afterColon ∧
      read afterColon = some (value.tree, ⟨rest, q⟩) := by
  obtain ⟨afterKey, q, hkey, hcolon⟩ := exists_key_written key (bytesOf value.write ++ rest) p
  obtain ⟨q', hvalue⟩ := h rest hrest q
  exact ⟨afterKey, _, q', hkey, hcolon, hvalue⟩

theorem membersWith_writtenMore (h : ∀ member ∈ members, ReadsBack read member.2) {fuel : Nat}
    (hfuel : members.length < fuel) (rest : Bytes) (p : Position) :
    ∃ q, membersWith read fuel false ⟨bytesOf (writeMoreMembers members) ++ rest, p⟩ =
      some (treesOf members, ⟨rest, q⟩) := by
  induction members generalizing fuel p with
  | nil =>
    obtain ⟨fuel, rfl⟩ := Nat.exists_eq_add_one_of_ne_zero (Nat.ne_of_gt hfuel)
    exact ⟨p.advance 0x7D, rfl⟩
  | cons member members ih =>
    obtain ⟨fuel, rfl⟩ := Nat.exists_eq_add_one_of_ne_zero (Nat.ne_of_gt (Nat.zero_lt_of_lt hfuel))
    obtain ⟨key, value⟩ := member
    obtain ⟨hvalue, hmembers⟩ := List.forall_mem_cons.mp h
    obtain ⟨afterKey, afterColon, q, hkey, hcolon, hread⟩ := hvalue.member key
      (endsValue_writeMoreMembers members rest) ((p.advance 0x2C).advance 0x22)
    obtain ⟨q', hmore⟩ := ih hmembers (Nat.lt_of_succ_lt_succ hfuel) q
    refine ⟨q', ?_⟩
    rw [bytesOf_writeMoreMembers, bytesOf_writeMembers]
    exact membersWith_step (nextKey_behind hkey) hcolon hread hmore

theorem membersWith_written (h : ∀ member ∈ members, ReadsBack read member.2) {fuel : Nat}
    (hfuel : members.length < fuel) (rest : Bytes) (p : Position) :
    ∃ q, membersWith read fuel true ⟨bytesOf (writeMembers members) ++ rest, p⟩ =
      some (treesOf members, ⟨rest, q⟩) := by
  obtain ⟨fuel, rfl⟩ := Nat.exists_eq_add_one_of_ne_zero (Nat.ne_of_gt (Nat.zero_lt_of_lt hfuel))
  cases members with
  | nil => exact ⟨p.advance 0x7D, rfl⟩
  | cons member members =>
    obtain ⟨key, value⟩ := member
    obtain ⟨hvalue, hmembers⟩ := List.forall_mem_cons.mp h
    obtain ⟨afterKey, afterColon, q, hkey, hcolon, hread⟩ := hvalue.member key
      (endsValue_writeMoreMembers members rest) (p.advance 0x22)
    obtain ⟨q', hmore⟩ :=
      membersWith_writtenMore hmembers (Nat.lt_of_succ_lt_succ hfuel) rest q
    refine ⟨q', ?_⟩
    rw [bytesOf_writeMembers]
    exact membersWith_step (nextKey_first hkey) hcolon hread hmore

end

/-! ### Values -/

theorem readTree_scalar {b : UInt8} (hspace : isSpace b = false) (hlist : b ≠ 0x5B)
    (hobject : b ≠ 0x7B) (depth : Nat) (rest : Bytes) (p : Position) :
    readTree depth ⟨b :: rest, p⟩ = readScalar b ⟨b :: rest, p⟩ := by
  unfold readTree
  rw [skipSpace_eq_self hspace]
  simp only
  rw [if_neg (by simpa using hlist), if_neg (by simpa using hobject)]

theorem readTree_text (s : String) (depth : Nat) (rest : Bytes) (p : Position) :
    ∃ q, readTree depth ⟨bytesOf (writeString s) ++ rest, p⟩ = some (.text s, ⟨rest, q⟩) := by
  obtain ⟨q, hread⟩ := readString_written s rest (p.advance 0x22)
  refine ⟨q, ?_⟩
  rw [bytesOf_writeString, readTree_scalar (by decide) (by decide) (by decide)]
  have hscalar : ∀ more : Bytes, readScalar 0x22 ⟨0x22 :: more, p⟩ =
      (readString ⟨more, p.advance 0x22⟩).toOption.map fun found => (.text found.1, found.2) :=
    fun _ => rfl
  rw [hscalar, hread]
  rfl

theorem readTree_number {n : Int} (h : FitsWord n) (depth : Nat) :
    ReadsBack (readTree depth) (.number n) := by
  intro rest hrest p
  obtain ⟨q, hread⟩ := readNumber_written h hrest.endsNumeral p
  obtain ⟨b, more, hwritten, hnumeral, hspace⟩ := exists_numeral_byte (isNumeral_signed n)
  have hne : ∀ d : UInt8, (d == 0x2D || isDigitByte d) = false → b ≠ d := by
    rintro d hd rfl
    rw [hnumeral] at hd
    cases hd
  have hskip : ∀ d : UInt8, (d == 0x2D || isDigitByte d) = false → ¬ (b == d) = true :=
    fun d hd => by simpa using hne d hd
  refine ⟨q, ?_⟩
  show readTree depth ⟨bytesOf (Text.signed n) ++ rest, p⟩ = some (.number (.integer n), ⟨rest, q⟩)
  rw [hwritten, List.cons_append] at hread ⊢
  rw [readTree_scalar hspace (hne _ (by decide)) (hne _ (by decide))]
  unfold readScalar
  rw [if_neg (hskip _ (by decide)), if_neg (hskip _ (by decide)), if_neg (hskip _ (by decide)),
    if_neg (hskip _ (by decide)), if_pos hnumeral, hread]
  rfl

theorem readTree_object {depth : Nat} {members : List (String × Value)}
    (h : ∀ member ∈ members, ReadsBack (readTree depth) member.2) (rest : Bytes) (p : Position) :
    ∃ q, readTree (depth + 1) ⟨bytesOf (Value.object members).write ++ rest, p⟩ =
      some (.object (treesOf members), ⟨rest, q⟩) := by
  have hbrace : ∀ more : Bytes, readTree (depth + 1) ⟨0x7B :: more, p⟩ =
      (membersWith (readTree depth) (more.length + 1) true ⟨more, p.advance 0x7B⟩).map
        fun found => (.object found.1, found.2) := by
    intro more
    unfold readTree
    rfl
  have hlength : members.length < (bytesOf (writeMembers members) ++ rest).length + 1 := by
    cases members with
    | nil => exact Nat.zero_lt_succ _
    | cons member members =>
      have hmore := length_lt_writeMoreMembers (member :: members)
      have hbehind := congrArg List.length (bytesOf_writeMoreMembers member members rest)
      simp only [List.length_append, List.length_cons] at hmore hbehind ⊢
      omega
  obtain ⟨q, hread⟩ := membersWith_written h hlength rest (p.advance 0x7B)
  refine ⟨q, ?_⟩
  show readTree (depth + 1) ⟨bytesOf ('\x7b' :: writeMembers members) ++ rest, p⟩ = _
  rw [Utf8.bytesOf_cons_ascii (by decide), List.cons_append]
  show readTree (depth + 1) ⟨0x7B :: _, p⟩ = _
  rw [hbrace, hread]
  rfl

/-- **Any value is read as it was written.** -/
theorem readTree_written : ∀ {depth : Nat} {value : Value}, value.FitsWithin depth →
    ReadsBack (readTree depth) value
  | depth, .number _, h => by
    rw [Value.FitsWithin] at h
    exact readTree_number h depth
  | depth, .text s, _ => fun rest _ p => readTree_text s depth rest p
  | 0, .object _, h => by
    rw [Value.FitsWithin] at h
    exact h.elim
  | depth + 1, .object members, h => fun rest _ p =>
    readTree_object
      (fun member hmem => readTree_written (Value.fitsWithin_object.mp h member hmem)) rest p

theorem readDocument_written {members : List (String × Value)}
    (h : (Value.object members).FitsWithin mostDepth) :
    readDocument (Utf8.encode (Value.object members).toText) = some (.object (treesOf members)) := by
  have hmembers : ∀ member ∈ members, ReadsBack (readTree 126) member.2 :=
    fun member hmem => readTree_written (Value.fitsWithin_object.mp h member hmem)
  obtain ⟨q, hread⟩ := readTree_object hmembers [] .start
  unfold readDocument Value.toText
  rw [Utf8.encode_eq, String.toList_ofList]
  rw [List.append_nil] at hread
  have hstart : readTree mostDepth (.start (bytesOf (Value.object members).write)) =
      some (.object (treesOf members), ⟨[], q⟩) := hread
  simp only [hstart, bind, Option.bind]
  rfl

end UserAccounts.Json
