/-
# Quoted texts and the texts of records tell what they hold

Between quotes a text can be read back: what stands for a character, itself or an escape,
is told from what follows it (`unescaped?_escaped`), and no character is written as a
closing quote. So a quoted text tells which text it quotes (`quoted_toldApart`), and a
number with its sign tells which number it is, where no digit follows it
(`signed_toldApart`).

Values that are written so that a value and what stands behind it can be found out from
both together are told apart (`ToldApart`). If the values in the fields of records are,
so are those of whole records, field by field (`record_append_iff`, `behind_append_iff`).

Key definitions: `unescaped?`, `EndsField`, `ToldApart`, `behind`.
Key theorems: `unescaped?_escaped`, `quoted_toldApart`, `signed_toldApart`,
`record_append_iff`, `behind_append_iff`.
-/
import Mathlib.Tactic.SplitIfs
import UserAccounts.Proofs.Text.Blank
import UserAccounts.Proofs.Text.Digits
import UserAccounts.Proofs.Text.Radix
import UserAccounts.Text.Record

namespace UserAccounts.Text

/-! ### Characters between quotes -/

/-- The character at the front of what stands between quotes, and what follows it. -/
def unescaped? : List Char → Option (Char × List Char)
  | [] => none
  | '"' :: _ => none
  | '\\' :: '0' :: rest => some ('\x00', rest)
  | '\\' :: 't' :: rest => some ('\t', rest)
  | '\\' :: 'n' :: rest => some ('\n', rest)
  | '\\' :: 'r' :: rest => some ('\r', rest)
  | '\\' :: 'u' :: '\x7b' :: rest =>
    some (.ofNat (hexNumber (rest.span (· != '\x7d')).1), (rest.span (· != '\x7d')).2.drop 1)
  | '\\' :: c :: rest => some (c, rest)
  | c :: rest => some (c, rest)

theorem unescaped?_hidden (n : Nat) (rest : List Char) :
    unescaped? ('\\' :: 'u' :: '\x7b' :: (hexLower n ++ '\x7d' :: rest)) =
      some (.ofNat n, rest) := by
  have hspan : (hexLower n ++ '\x7d' :: rest).span (· != '\x7d') =
      (hexLower n, '\x7d' :: rest) := by
    refine span_eq_iff.mpr ⟨rfl, fun d hd => ?_, fun d hd => ?_⟩
    · rw [bne_iff_ne]
      exact ne_brace_of_mem_hexLower hd
    · rw [← Option.some.inj hd]
      rfl
  unfold unescaped?
  simp only [hspan, hexNumber_hexLower]
  rfl

theorem unescaped?_escaped (c : Char) (rest : List Char) :
    unescaped? (escaped c ++ rest) = some (c, rest) := by
  unfold escaped
  split_ifs with hzero htab hline hreturn hquote hslash hhidden
  · rw [hzero]
    rfl
  · rw [htab]
    rfl
  · rw [hline]
    rfl
  · rw [hreturn]
    rfl
  · rw [hquote]
    rfl
  · rw [hslash]
    rfl
  · have hread := unescaped?_hidden c.toNat rest
    rw [Char.ofNat_toNat] at hread
    simpa using hread
  · show unescaped? (c :: rest) = some (c, rest)
    unfold unescaped?
    split <;> simp_all

/-- What stands between quotes tells its characters and what stands behind the quotes. -/
theorem flatMap_escaped_inj {chars others rest more : List Char}
    (h : chars.flatMap escaped ++ '"' :: rest = others.flatMap escaped ++ '"' :: more) :
    chars = others ∧ rest = more := by
  have hquote : ∀ behind : List Char, unescaped? ('"' :: behind) = none := fun _ => rfl
  have hread : ∀ (c : Char) (cs behind : List Char),
      unescaped? ((c :: cs).flatMap escaped ++ behind) =
        some (c, cs.flatMap escaped ++ behind) := by
    intro c cs behind
    rw [List.flatMap_cons, List.append_assoc, unescaped?_escaped]
  induction chars generalizing others with
  | nil =>
    cases others with
    | nil => exact ⟨rfl, (List.cons.inj h).2⟩
    | cons d others =>
      have hboth := congrArg unescaped? h
      rw [hread, List.flatMap_nil, List.nil_append, hquote] at hboth
      cases hboth
  | cons c chars ih =>
    have hboth := congrArg unescaped? h
    cases others with
    | nil =>
      rw [hread, List.flatMap_nil, List.nil_append, hquote] at hboth
      cases hboth
    | cons d others =>
      rw [hread, hread] at hboth
      obtain ⟨rfl, hmore⟩ := Prod.mk.inj (Option.some.inj hboth)
      obtain ⟨rfl, hrest⟩ := ih hmore
      exact ⟨rfl, hrest⟩

/-! ### Values told apart -/

/-- What stands behind the value of a field: a comma or a blank. -/
def EndsField (rest : List Char) : Prop :=
  ∃ c more, rest = c :: more ∧ (c = ',' ∨ c = ' ')

/-- A value that is written so, and what stands behind it, are found out from both together. -/
def ToldApart {α : Type} (text : α → String) : Prop :=
  ∀ {a b : α} {rest more : List Char}, EndsField rest → EndsField more →
    (text a).toList ++ rest = (text b).toList ++ more → a = b ∧ rest = more

theorem quoted_toldApart : ToldApart quoted := by
  intro s t rest more _ _ h
  unfold quoted at h
  rw [String.toList_ofList, String.toList_ofList, List.append_assoc, List.append_assoc] at h
  obtain ⟨hchars, hrest⟩ := flatMap_escaped_inj (List.cons.inj h).2
  exact ⟨String.toList_inj.mp hchars, hrest⟩

theorem toList_toString (n : Int) : (toString n).toList = signed n := by
  cases n with
  | ofNat n => exact String.toList_ofList
  | negSucc n =>
    have hwritten : (toString (Int.negSucc n)).toList = "-".toList ++ (Nat.repr (n + 1)).toList :=
      String.toList_append
    rw [hwritten, signed, if_pos (Int.negSucc_lt_zero n)]
    exact congrArg ('-' :: ·) String.toList_ofList

theorem decimal_append_inj {m n : Nat} {rest more : List Char} (hrest : EndsField rest)
    (hmore : EndsField more) (h : decimal m ++ rest = decimal n ++ more) : m = n ∧ rest = more := by
  have hspan : ∀ {k : Nat} {behind : List Char}, EndsField behind →
      (decimal k ++ behind).span Char.isDigit = (decimal k, behind) := by
    rintro k _ ⟨d, more, rfl, hd⟩
    refine span_eq_iff.mpr ⟨rfl, fun c hc => isDigit_of_mem_decimal hc, fun c hc => ?_⟩
    rw [← Option.some.inj hc]
    rcases hd with rfl | rfl <;> rfl
  have hboth := congrArg (List.span Char.isDigit) h
  rw [hspan hrest, hspan hmore] at hboth
  obtain ⟨hdigits, hbehind⟩ := Prod.mk.inj hboth
  refine ⟨?_, hbehind⟩
  calc m = Nat.ofDigitChars 10 (decimal m) 0 := Nat.ofDigitChars_ten_toDigits.symm
    _ = Nat.ofDigitChars 10 (decimal n) 0 := by rw [hdigits]
    _ = n := Nat.ofDigitChars_ten_toDigits

theorem signed_toldApart : ToldApart (toString : Int → String) := by
  intro m n rest more hrest hmore h
  have hsign : ∀ {k : Nat} {behind others : List Char},
      '-' :: others ≠ decimal k ++ behind := by
    intro k behind others he
    obtain ⟨d, digits, hd⟩ := List.exists_cons_of_ne_nil (Nat.toDigits_ne_nil (n := k) (b := 10))
    have hdigit : d.isDigit = true :=
      isDigit_of_mem_decimal (n := k) (by rw [decimal, hd]; exact List.mem_cons_self)
    rw [decimal, hd] at he
    rw [← (List.cons.inj he).1] at hdigit
    exact absurd hdigit (by decide)
  rw [toList_toString, toList_toString] at h
  unfold signed at h
  by_cases hm : m < 0 <;> by_cases hn : n < 0
  · rw [if_pos hm, if_pos hn] at h
    obtain ⟨hsame, hbehind⟩ := decimal_append_inj hrest hmore (List.cons.inj h).2
    exact ⟨by omega, hbehind⟩
  · rw [if_pos hm, if_neg hn] at h
    exact absurd h hsign
  · rw [if_neg hm, if_pos hn] at h
    exact absurd h.symm hsign
  · rw [if_neg hm, if_neg hn] at h
    obtain ⟨hsame, hbehind⟩ := decimal_append_inj hrest hmore h
    exact ⟨by omega, hbehind⟩

/-- A function of what is told apart is told apart if it tells its arguments apart. -/
theorem ToldApart.comp {α β : Type} {text : β → String} {f : α → β} (h : ToldApart text)
    (hf : ∀ a b, f a = f b → a = b) : ToldApart fun a => text (f a) := by
  intro a b rest more hrest hmore he
  obtain ⟨hsame, hbehind⟩ := h hrest hmore he
  exact ⟨hf a b hsame, hbehind⟩

/-! ### Records -/

/-- What stands behind the value of a field: the fields that follow it, and the end. -/
def behind : List (String × String) → List Char
  | [] => [' ', '\x7d']
  | (name, text) :: fields =>
    ", ".toList ++ (name.toList ++ (": ".toList ++ (text.toList ++ behind fields)))

theorem endsField_behind (fields : List (String × String)) (rest : List Char) :
    EndsField (behind fields ++ rest) := by
  cases fields with
  | nil => exact ⟨' ', '\x7d' :: rest, rfl, .inr rfl⟩
  | cons field fields => exact ⟨',', _, rfl, .inl rfl⟩

theorem record_cons (name field text : String) (fields : List (String × String)) :
    (record name ((field, text) :: fields)).toList =
      name.toList ++ " \x7b ".toList ++ field.toList ++ ": ".toList ++
        (text.toList ++ behind fields) := by
  have hjoined : ∀ (field text : String) (fields : List (String × String)),
      (", ".intercalate (((field, text) :: fields).map fun f => f.1 ++ ": " ++ f.2)).toList ++
        " \x7d".toList = field.toList ++ (": ".toList ++ (text.toList ++ behind fields)) := by
    intro field text fields
    induction fields generalizing field text with
    | nil => simp [behind]
    | cons next fields ih =>
      obtain ⟨field', text'⟩ := next
      have hnext := ih field' text'
      simp only [List.map_cons, String.intercalate_cons_cons, String.toList_append,
        List.append_assoc] at hnext ⊢
      rw [hnext]
      rfl
  unfold record
  rw [String.toList_append, String.toList_append, String.toList_append, List.append_assoc, hjoined]
  simp only [List.append_assoc]

section

variable {α : Type} {text : α → String} {a b : α} {fields others : List (String × String)}
  {rest more : List Char}

theorem behind_append_iff (h : ToldApart text) (field : String) :
    behind ((field, text a) :: fields) ++ rest = behind ((field, text b) :: others) ++ more ↔
      a = b ∧ behind fields ++ rest = behind others ++ more := by
  simp only [behind, List.append_assoc, List.append_cancel_left_eq]
  constructor
  · exact h (endsField_behind fields rest) (endsField_behind others more)
  · rintro ⟨rfl, hbehind⟩
    rw [hbehind]

theorem record_append_iff (h : ToldApart text) (name field : String) :
    (record name ((field, text a) :: fields)).toList ++ rest =
        (record name ((field, text b) :: others)).toList ++ more ↔
      a = b ∧ behind fields ++ rest = behind others ++ more := by
  rw [record_cons, record_cons]
  simp only [List.append_assoc, List.append_cancel_left_eq]
  constructor
  · exact h (endsField_behind fields rest) (endsField_behind others more)
  · rintro ⟨rfl, hbehind⟩
    rw [hbehind]

end

end UserAccounts.Text
