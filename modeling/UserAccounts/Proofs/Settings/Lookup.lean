/-
# What is set under a key

A text is held under a key if it stands there without the blanks around it and is not
empty (`Lookup.Holds`); if there is no text, or one of blanks alone, the key lacks one
(`Lookup.Lacks`). Looking up finds exactly that (`value?_eq_some_iff`,
`value?_eq_none_iff`), so a setting with a standard value is what the text spells, or the
standard (`Lookup.Sets`).

Key definitions: `Lookup.Holds`, `Lookup.Lacks`, `Lookup.Sets`.
Key theorems: `outcome_iff`, `Lookup.value?_eq_some_iff`, `Lookup.value?_eq_none_iff`,
`Lookup.sets_text_iff`.
-/
import UserAccounts.Proofs.Text.Blank
import UserAccounts.Settings.Lookup

namespace UserAccounts

/-- Where each outcome has its condition, and one of the conditions always holds, the outcome tells
which. -/
theorem outcome_iff {ε α : Type} {outcome : Except ε α} {Succeeds : α → Prop} {Fails : ε → Prop}
    (hok : ∀ a, Succeeds a → outcome = .ok a) (herror : ∀ e, Fails e → outcome = .error e)
    (h : (∃ a, Succeeds a) ∨ ∃ e, Fails e) :
    (∀ a, outcome = .ok a ↔ Succeeds a) ∧ ∀ e, outcome = .error e ↔ Fails e := by
  rcases h with ⟨a, ha⟩ | ⟨e, he⟩
  · obtain rfl := hok a ha
    refine ⟨fun b => ⟨?_, hok b⟩, fun e => ⟨nofun, herror e⟩⟩
    intro hb
    rwa [← Except.ok.inj hb]
  · obtain rfl := herror e he
    refine ⟨fun a => ⟨nofun, hok a⟩, fun f => ⟨?_, herror f⟩⟩
    intro hf
    rwa [← Except.error.inj hf]

namespace Lookup

/-- The text is held under the key: it stands there, perhaps between blanks, and is not empty. -/
def Holds (lookup : Lookup) (key value : String) : Prop :=
  value ≠ "" ∧ ∃ raw, lookup key = some raw ∧ Text.IsTrimOf value.toList raw.toList

/-- Nothing is held under the key: there is no text, or it is nothing but blanks. -/
def Lacks (lookup : Lookup) (key : String) : Prop :=
  ∀ raw, lookup key = some raw → ∀ c ∈ raw.toList, Text.isBlank c = true

/-- A setting has the value that the text under its key spells, or the standard if there is none. -/
inductive Sets {α : Type} (lookup : Lookup) (key : String) (Spells : String → α → Prop)
    (standard : α) : α → Prop where
  | standard (h : lookup.Lacks key) : Sets lookup key Spells standard standard
  | held {raw : String} {value : α} (h : lookup.Holds key raw) (hspells : Spells raw value) :
      Sets lookup key Spells standard value

variable {lookup : Lookup} {key value : String}

/-! ### Looking up -/

theorem trimmed_eq_iff {raw : String} :
    Text.trimmed raw = value ↔ Text.IsTrimOf value.toList raw.toList := by
  rw [← Text.trimmedChars_eq_iff, Text.trimmed, ← String.toList_inj, String.toList_ofList]

/-- What is looked up under a key depends on no other key. -/
theorem value?_congr {other : Lookup} (h : lookup key = other key) :
    lookup.value? key = other.value? key := by
  unfold value?
  rw [h]

theorem value?_eq_some_iff : lookup.value? key = some value ↔ lookup.Holds key value := by
  unfold value? Holds
  rw [Option.filter_eq_some_iff, Option.map_eq_some_iff]
  constructor
  · rintro ⟨⟨raw, hraw, htrimmed⟩, hvalue⟩
    exact ⟨of_decide_eq_true hvalue, raw, hraw, trimmed_eq_iff.mp htrimmed⟩
  · rintro ⟨hvalue, raw, hraw, htrim⟩
    exact ⟨⟨raw, hraw, trimmed_eq_iff.mpr htrim⟩, decide_eq_true hvalue⟩

theorem isTrimOf_nil_iff {cs : List Char} :
    Text.IsTrimOf [] cs ↔ ∀ c ∈ cs, Text.isBlank c = true := by
  constructor
  · rintro ⟨⟨before, after, rfl, hbefore, hafter⟩, -, -⟩
    intro c hc
    rw [List.append_nil] at hc
    exact (List.mem_append.mp hc).elim (hbefore c) (hafter c)
  · intro hall
    exact ⟨⟨cs, [], by simp, hall, nofun⟩, nofun, nofun⟩

theorem value?_eq_none_iff : lookup.value? key = none ↔ lookup.Lacks key := by
  rw [Option.eq_none_iff_forall_ne_some]
  constructor
  · intro hnone raw hraw
    have htrim : Text.IsTrimOf (Text.trimmed raw).toList raw.toList := trimmed_eq_iff.mp rfl
    by_cases hempty : Text.trimmed raw = ""
    · rw [hempty] at htrim
      exact isTrimOf_nil_iff.mp htrim
    · exact absurd (value?_eq_some_iff.mpr ⟨hempty, raw, hraw, htrim⟩) (hnone _)
  · intro hlacks found hfound
    obtain ⟨hne, raw, hraw, htrim⟩ := value?_eq_some_iff.mp hfound
    have hblank := isTrimOf_nil_iff.mpr (hlacks raw hraw)
    have hempty := (Text.trimmedChars_eq_iff.mpr htrim).symm.trans
      (Text.trimmedChars_eq_iff.mpr hblank)
    exact hne (String.toList_eq_nil_iff.mp hempty)

theorem Holds.allBlank (h : lookup.Holds key value) : Text.allBlank value = false := by
  obtain ⟨hne, raw, -, -, hhead, -⟩ := h
  unfold Text.allBlank
  cases hchars : value.toList with
  | nil => exact absurd (String.toList_eq_nil_iff.mp hchars) hne
  | cons c cs => rw [List.all_cons, hhead c (by rw [hchars]; rfl), Bool.false_and]

/-- A setting has some value exactly if the text under its key, if there is one, spells some. -/
theorem exists_sets_iff {α : Type} {Spells : String → α → Prop} {standard : α} :
    (∃ v, lookup.Sets key Spells standard v) ↔
      lookup.Lacks key ∨ ∃ raw v, lookup.Holds key raw ∧ Spells raw v := by
  constructor
  · rintro ⟨v, h⟩
    cases h with
    | standard h => exact .inl h
    | held h hspells => exact .inr ⟨_, _, h, hspells⟩
  · rintro (h | ⟨raw, v, h, hspells⟩)
    · exact ⟨standard, .standard h⟩
    · exact ⟨v, .held h hspells⟩

theorem sets_text_iff {standard text : String} :
    lookup.Sets key Eq standard text ↔ (lookup.value? key).getD standard = text := by
  constructor
  · intro h
    cases h with
    | standard h => rw [value?_eq_none_iff.mpr h, Option.getD_none]
    | held h he => rw [value?_eq_some_iff.mpr h, Option.getD_some, he]
  · rintro rfl
    cases hvalue : lookup.value? key with
    | none => exact .standard (value?_eq_none_iff.mp hvalue)
    | some raw => exact .held (value?_eq_some_iff.mp hvalue) rfl

end Lookup

end UserAccounts
