/-
# Which texts are read as a record

An object tells the values of fields if each field has one member, which has its value
(`Values.Told`). With names that are all different, what happens to the slot of a field
depends on the members of its name alone, and not on the other fields (`Slots.tell?_field`);
so by induction over the fields an object is read exactly if it tells values
(`Slots.tell?_empty_eq_some_iff`). Its members are then those of the values in some order,
and others under keys that are no names of fields (`Values.told_iff`). One such object is
the one that is written (`readRecord_written`, `readLeadingRecord_written`).

A type whose values are records of a shape (`Layout`) has texts that mirror them
(`Layout.mirrors`): what is written is read, and what else is read and refused is said
without reading.

Key definitions: `Slots.fillField`, `Values.Told`, `Mirrors`, `Layout`.
Key theorems: `Slots.tell?_field`, `Slots.tell?_empty_eq_some_iff`, `Values.told_iff`,
`readRecord_written`, `readLeadingRecord_written`, `Layout.mirrors`.
-/
import Mathlib.Data.List.Perm.Basic
import UserAccounts.Proofs.Json.Members

namespace UserAccounts.Json

variable {fields : List (String × Kind)} {name : String} {kind : Kind}

/-! ### One field -/

/-- Puts a value into the slot of a field, if the slot is empty and the field takes the value. -/
def Slots.put (kind : Kind) : Option kind.Value → Item → Option (Option kind.Value)
  | none, i => (kind.value? i).map some
  | some _, _ => none

/-- What a member makes of the slot of a field: it is put there if it has its name. -/
def Slots.fillField (name : String) (kind : Kind) (slot : Option kind.Value)
    (member : String × Item) : Option (Option kind.Value) :=
  if member.1 = name then Slots.put kind slot member.2 else some slot

theorem Slots.place_unknown {key : String} (h : key ∉ fields.map (·.1)) (slots : Slots fields) :
    Slots.place key fields slots = .unknown := by
  induction fields with
  | nil => rfl
  | cons field fields ih =>
    obtain ⟨name, kind⟩ := field
    obtain ⟨slot, slots⟩ := slots
    rw [List.map_cons, List.mem_cons, not_or] at h
    simp only [Slots.place, if_neg h.1, ih h.2]

theorem Slots.accept_field (h : name ∉ fields.map (·.1)) (slot : Option kind.Value)
    (slots : Slots fields) (member : String × Item) :
    @Slots.accept ((name, kind) :: fields) (slot, slots) member =
      (Slots.fillField name kind slot member).bind fun slot =>
        (slots.accept member).map (slot, ·) := by
  obtain ⟨key, i⟩ := member
  unfold accept fillField
  simp only [Slots.place]
  by_cases hkey : key = name
  · subst hkey
    rw [if_pos rfl, if_pos rfl, Slots.place_unknown h]
    cases slot with
    | some value => rfl
    | none => cases hvalue : kind.value? i <;> simp [Slots.put, hvalue]
  · rw [if_neg hkey, if_neg hkey]
    cases hplace : Slots.place key fields slots with
    | taken => rfl
    | unknown => rfl
    | fill found put => cases hvalue : found.value? i <;> simp [hvalue]

/-- **The slot of a field is filled by the members of its name alone.** -/
theorem Slots.tell?_field (h : name ∉ fields.map (·.1)) (slot : Option kind.Value)
    (slots : Slots fields) (members : List (String × Item)) :
    @Slots.tell? ((name, kind) :: fields) (slot, slots) members =
      (members.foldlM (Slots.fillField name kind) slot).bind fun slot =>
        slot.bind fun value => (slots.tell? members).map (value, ·) := by
  induction members generalizing slot slots with
  | nil =>
    show (Slots.values ((name, kind) :: fields) (slot, slots)).toOption =
      slot.bind fun value => (Slots.values fields slots).toOption.map (value, ·)
    simp only [Slots.values]
    cases slot with
    | none => rfl
    | some value => cases Slots.values fields slots <;> rfl
  | cons member members ih =>
    rw [Slots.tell?_cons, Slots.accept_field h, List.foldlM_cons, Slots.tell?_cons]
    cases hslot : Slots.fillField name kind slot member with
    | none => rfl
    | some filled =>
      cases hslots : slots.accept member with
      | none => simp
      | some next => simpa using ih filled next

/-- A slot is filled if one member has the name of its field, and a value that it takes. -/
theorem Slots.foldlM_fillField_eq_some_iff {members : List (String × Item)}
    {value : kind.Value} :
    members.foldlM (Slots.fillField name kind) none = some (some value) ↔
      members.filter (·.1 = name) = [(name, kind.item value)] ∧ kind.Fits value := by
  have hfilter : members.foldlM (Slots.fillField name kind) none =
      (members.filter (·.1 = name)).foldlM (fun slot member => Slots.put kind slot member.2)
        none := by
    rw [List.foldlM_filter]
    simp only [decide_eq_true_eq]
    rfl
  have hnames : ∀ member ∈ members.filter (·.1 = name), member.1 = name :=
    fun member hmem => by simpa using (List.mem_filter.mp hmem).2
  rw [hfilter]
  generalize members.filter (·.1 = name) = named at hnames
  match named with
  | [] => simp
  | [(key, i)] =>
    obtain rfl : key = name := hnames _ List.mem_cons_self
    simp [Slots.put, Kind.value?_eq_some_iff]
  | (key, i) :: other :: named =>
    refine iff_of_false ?_ nofun
    rw [List.foldlM_cons]
    cases hvalue : kind.value? i <;> simp [Slots.put, hvalue]

/-! ### All fields -/

/-- The members tell the values: each field has one member, which has its value. -/
def Values.Told (members : List (String × Item)) :
    (fields : List (String × Kind)) → Values fields → Prop
  | [], _ => True
  | (name, kind) :: fields, (value, values) =>
    (members.filter (·.1 = name) = [(name, kind.item value)] ∧ kind.Fits value) ∧
      Values.Told members fields values

/-- **An object is read as the values that its members tell**, and refused if they tell none. -/
theorem Slots.tell?_empty_eq_some_iff (h : (fields.map (·.1)).Nodup)
    {members : List (String × Item)} {values : Values fields} :
    (Slots.empty fields).tell? members = some values ↔ Values.Told members fields values := by
  induction fields with
  | nil =>
    refine iff_of_true ?_ trivial
    induction members with
    | nil => rfl
    | cons member members ih => rw [Slots.tell?_cons]; exact ih
  | cons field fields ih =>
    obtain ⟨name, kind⟩ := field
    obtain ⟨value, values⟩ := values
    rw [List.map_cons, List.nodup_cons] at h
    rw [Slots.empty, Slots.tell?_field h.1, Values.Told, ← Slots.foldlM_fillField_eq_some_iff,
      ← ih h.2]
    cases members.foldlM (Slots.fillField name kind) none with
    | none => simp
    | some slot =>
      cases slot with
      | none => simp
      | some found =>
        cases (Slots.empty fields).tell? members with
        | none => simp
        | some others => simp

theorem Values.Told.of_mem {members : List (String × Item)} {values : Values fields}
    (h : Values.Told members fields values) (hmem : (name, kind) ∈ fields) :
    ∃ value, members.filter (·.1 = name) = [(name, kind.item value)] ∧ kind.Fits value := by
  induction fields with
  | nil => exact absurd hmem List.not_mem_nil
  | cons field fields ih =>
    obtain ⟨value, values⟩ := values
    obtain ⟨hfield, hfields⟩ := h
    rcases List.mem_cons.mp hmem with rfl | hmem
    · exact ⟨value, hfield⟩
    · exact ih hfields hmem

def Values.members : (fields : List (String × Kind)) → Values fields → List (String × Item)
  | [], _ => []
  | (name, kind) :: fields, (value, values) =>
    (name, kind.item value) :: Values.members fields values

theorem Values.map_members_fst (values : Values fields) :
    (Values.members fields values).map (·.1) = fields.map (·.1) := by
  induction fields with
  | nil => rfl
  | cons field fields ih => exact congrArg (field.1 :: ·) (ih values.2)

theorem Values.map_members_snd (values : Values fields) :
    (Values.members fields values).map (·.2) = Values.items fields values := by
  induction fields with
  | nil => rfl
  | cons field fields ih => exact congrArg (field.2.item values.1 :: ·) (ih values.2)

def Values.toJson : (fields : List (String × Kind)) → Values fields → List (String × Value)
  | [], _ => []
  | (name, kind) :: fields, (value, values) =>
    (name, kind.toJson value) :: Values.toJson fields values

theorem Values.writeMoreMembers_toJson (values : Values fields) :
    writeMoreMembers (Values.toJson fields values) =
      behindComma '\x7d' (writeEntries (Values.members fields values)) := by
  induction fields with
  | nil => rfl
  | cons field fields ih =>
    obtain ⟨name, kind⟩ := field
    obtain ⟨value, values⟩ := values
    rw [Values.toJson, Values.members, writeMoreMembers, writeEntries, behindComma_cons,
      Kind.write_toJson, ih]
    rfl

theorem Values.toText_toJson (values : Values fields) :
    (Value.object (Values.toJson fields values)).toText =
      (Item.object (Values.members fields values)).toText := by
  refine congrArg String.ofList ?_
  rw [Value.write, Item.write]
  refine congrArg ('\x7b' :: ·) ?_
  cases fields with
  | nil => rfl
  | cons field fields =>
    obtain ⟨name, kind⟩ := field
    obtain ⟨value, values⟩ := values
    rw [Values.toJson, Values.members, writeMembers, writeEntries, intercalate_append_close,
      Kind.write_toJson, Values.writeMoreMembers_toJson]

/-- Members under a key that is no name do not count. -/
theorem Values.told_filter {members : List (String × Item)} {key : String}
    (h : key ∉ fields.map (·.1)) {values : Values fields} :
    Values.Told (members.filter (·.1 ≠ key)) fields values ↔ Values.Told members fields values := by
  induction fields with
  | nil => rfl
  | cons field fields ih =>
    obtain ⟨name, kind⟩ := field
    rw [List.map_cons, List.mem_cons, not_or] at h
    have hsame : (members.filter (·.1 ≠ key)).filter (·.1 = name) =
        members.filter (·.1 = name) := by
      rw [List.filter_filter]
      refine List.filter_congr fun member _ => ?_
      by_cases hname : member.1 = name
      · simp [hname, Ne.symm h.1]
      · simp [hname]
    rw [Values.Told, Values.Told, hsame, ih h.2]

open scoped List in
/-- One member has the name if the members are this one and others, in some order. -/
theorem one_named_iff {members rest : List (String × Item)} {i : Item} :
    (members.filter (·.1 = name) = [(name, i)] ∧ (members.filter (·.1 ≠ name)).Perm rest) ↔
      members.Perm ((name, i) :: rest) ∧ ∀ member ∈ rest, member.1 ≠ name := by
  constructor
  · rintro ⟨hone, hrest⟩
    have hsplit : (members.filter (·.1 = name) ++ members.filter (·.1 ≠ name)).Perm members := by
      simpa using List.filter_append_perm (fun member => decide (member.1 = name)) members
    refine ⟨?_, fun member hmem => ?_⟩
    · calc members
        _ ~ members.filter (·.1 = name) ++ members.filter (·.1 ≠ name) := hsplit.symm
        _ = (name, i) :: members.filter (·.1 ≠ name) := by rw [hone, List.singleton_append]
        _ ~ (name, i) :: rest := hrest.cons _
    · have hleft := hrest.mem_iff.mpr hmem
      simpa using (List.mem_filter.mp hleft).2
  · rintro ⟨hperm, hne⟩
    have hnone : rest.filter (·.1 = name) = [] :=
      List.filter_eq_nil_iff.mpr fun member hmem => by simpa using hne member hmem
    have hall : rest.filter (·.1 ≠ name) = rest :=
      List.filter_eq_self.mpr fun member hmem => by simpa using hne member hmem
    have hnamed := hperm.filter (·.1 = name)
    have hleft := hperm.filter (·.1 ≠ name)
    rw [List.filter_cons_of_pos (by simp), hnone] at hnamed
    rw [List.filter_cons_of_neg (by simp), hall] at hleft
    exact ⟨List.perm_singleton.mp hnamed, hleft⟩

/-- **Members tell values if they are those of the values in some order**, and others under keys
that are no names of fields. -/
theorem Values.told_iff (h : (fields.map (·.1)).Nodup) {members : List (String × Item)}
    {values : Values fields} :
    Values.Told members fields values ↔
      Values.Fit fields values ∧ ∃ others, members.Perm (Values.members fields values ++ others) ∧
        ∀ member ∈ others, member.1 ∉ fields.map (·.1) := by
  induction fields generalizing members with
  | nil =>
    exact iff_of_true trivial
      ⟨trivial, members, List.Perm.refl _, fun _ _ => List.not_mem_nil⟩
  | cons field fields ih =>
    obtain ⟨name, kind⟩ := field
    obtain ⟨value, values⟩ := values
    rw [List.map_cons, List.nodup_cons] at h
    rw [Values.Told, Values.Fit, Values.members, ← Values.told_filter h.1, ih h.2]
    constructor
    · rintro ⟨⟨hone, hfits⟩, hfit, others, hleft, hothers⟩
      obtain ⟨hperm, hne⟩ := one_named_iff.mp ⟨hone, hleft⟩
      refine ⟨⟨hfits, hfit⟩, others, hperm, fun member hmem => ?_⟩
      apply List.not_mem_cons_of_ne_of_not_mem
      · exact hne member (List.mem_append_right _ hmem)
      · exact hothers member hmem
    · rintro ⟨⟨hfits, hfit⟩, others, hperm, hothers⟩
      have hne : ∀ member ∈ Values.members fields values ++ others, member.1 ≠ name := by
        intro member hmem he
        rcases List.mem_append.mp hmem with hfield | hother
        · apply h.1
          rw [← Values.map_members_fst values, ← he]
          exact List.mem_map_of_mem hfield
        · exact List.ne_of_not_mem_cons (hothers member hother) he
      obtain ⟨hone, hleft⟩ := one_named_iff.mpr ⟨hperm, hne⟩
      refine ⟨⟨hone, hfits⟩, hfit, others, hleft, fun member hmem => ?_⟩
      exact List.not_mem_of_not_mem_cons (hothers member hmem)

theorem Values.Fit.told {values : Values fields} (hfit : Values.Fit fields values)
    (h : (fields.map (·.1)).Nodup) :
    Values.Told (Values.members fields values) fields values := by
  refine (Values.told_iff h).mpr ⟨hfit, [], ?_, fun _ hmem => absurd hmem List.not_mem_nil⟩
  rw [List.append_nil]

/-! ### Records -/

section

variable {shape : Shape} {items : List Item} {object : List (String × Item)}
  {values : Values shape.fields}

theorem toOption_eq_some_iff {α : Type} {outcome : Except Problem α} {a : α} :
    outcome.toOption = some a ↔ outcome = .ok a := by
  cases outcome <;> simp [Except.toOption]

theorem readRecord_object_iff (h : (shape.fields.map (·.1)).Nodup) :
    readRecord shape (Utf8.encode (Item.object object).toText) = .ok values ↔
      Values.Told object shape.fields values := by
  rw [← toOption_eq_some_iff, readRecord_object, Slots.tell?_empty_eq_some_iff h]

theorem readRecord_list_iff :
    readRecord shape (Utf8.encode (Item.list items).toText) = .ok values ↔
      items = Values.items shape.fields values ∧ Values.Fit shape.fields values := by
  rw [← toOption_eq_some_iff, readRecord_list, Values.ofItems?_eq_some_iff]

variable {value : Value} (h : (shape.fields.map (·.1)).Nodup)
  (hfit : Values.Fit shape.fields values)
  (hwritten : value = .object (Values.toJson shape.fields values))

include h hfit hwritten

/-- **A record is read as it was written.** -/
theorem readRecord_written : readRecord shape (Utf8.encode value.toText) = .ok values := by
  rw [hwritten, Values.toText_toJson, readRecord_object_iff h]
  exact hfit.told h

/-- The same where it does not count what follows the record. -/
theorem readLeadingRecord_written :
    readLeadingRecord shape (Utf8.encode value.toText) = .ok values := by
  have hread := readRecordHere_object shape (Values.members shape.fields values)
  rw [(Slots.tell?_empty_eq_some_iff h).mpr (hfit.told h)] at hread
  obtain ⟨q, hq⟩ := hread
  rw [hwritten, Values.toText_toJson, readLeadingRecord, hq]
  rfl

end

def Refused {α : Type} (outcome : Except Problem α) : Prop :=
  ∃ problem, outcome = .error problem

theorem refused_iff {α : Type} {outcome : Except Problem α} :
    Refused outcome ↔ ∀ a, outcome ≠ .ok a := by
  cases outcome with
  | error problem => exact iff_of_true ⟨problem, rfl⟩ nofun
  | ok a => exact iff_of_false nofun fun h => h a rfl

/-- Texts and values mirror each other: `members` of a value are its fields in the order in which
they are declared, as they are written. -/
structure Mirrors {α : Type} (shape : Shape) (members : α → List (String × Item))
    (toJson : α → Value) (ofJson : Bytes → Except Problem α) : Prop where
  /-- What is written is read as it was. -/
  written : ∀ a, ofJson (Utf8.encode (toJson a).toText) = .ok a
  /-- A list is read as a value if it holds the fields in the order in which they are declared. -/
  listed : ∀ a items,
    ofJson (Utf8.encode (Item.list items).toText) = .ok a ↔ items = (members a).map (·.2)
  /-- An object is read as a value if it holds the fields in any order, and besides them only
  members under other keys, of which there may be any number, and with any values. -/
  inAnyOrder : ∀ a object,
    ofJson (Utf8.encode (Item.object object).toText) = .ok a ↔
      ∃ others, object.Perm (members a ++ others) ∧
        ∀ member ∈ others, member.1 ∉ shape.fields.map (·.1)
  /-- An object without a field is refused. -/
  missing : ∀ field ∈ shape.fields, ∀ object : List (String × Item),
    field.1 ∉ object.map (·.1) → Refused (ofJson (Utf8.encode (Item.object object).toText))
  /-- An object with a field twice or more often is refused. -/
  repeated : ∀ field ∈ shape.fields, ∀ object : List (String × Item),
    2 ≤ (object.map (·.1)).count field.1 →
      Refused (ofJson (Utf8.encode (Item.object object).toText))
  /-- An object is refused that has for a whole number of some type one outside of it, or anything
  else. -/
  outside : ∀ name type, (name, Kind.integer type) ∈ shape.fields →
    ∀ (object : List (String × Item)) (i : Item), (name, i) ∈ object →
      (∀ n, type.low ≤ n → n ≤ type.high → i ≠ .integer n) →
      Refused (ofJson (Utf8.encode (Item.object object).toText))

/-- A type whose values are records of a shape, with numbers that fit the types of their fields. -/
structure Layout (α : Type) where
  shape : Shape
  values : α → Values shape.fields
  make : Values shape.fields → α
  nodup : (shape.fields.map (·.1)).Nodup
  fit : ∀ a, Values.Fit shape.fields (values a)
  make_values : ∀ a, make (values a) = a
  values_make : ∀ found, Values.Fit shape.fields found → values (make found) = found

namespace Layout

variable {α : Type} (layout : Layout α) {a : α} {object : List (String × Item)}

def read (text : Bytes) : Except Problem α :=
  (readRecord layout.shape text).map layout.make

theorem map_make_eq_ok_iff {outcome : Except Problem (Values layout.shape.fields)}
    (hfit : ∀ found, outcome = .ok found → Values.Fit layout.shape.fields found) :
    outcome.map layout.make = .ok a ↔ outcome = .ok (layout.values a) := by
  cases outcome with
  | error problem => exact iff_of_false nofun nofun
  | ok found =>
    show Except.ok (layout.make found) = .ok a ↔ _
    rw [Except.ok.injEq, Except.ok.injEq]
    constructor
    · rintro rfl
      exact (layout.values_make found (hfit found rfl)).symm
    · rintro rfl
      exact layout.make_values a

theorem read_object_iff :
    layout.read (Utf8.encode (Item.object object).toText) = .ok a ↔
      Values.Told object layout.shape.fields (layout.values a) := by
  rw [read, layout.map_make_eq_ok_iff, readRecord_object_iff layout.nodup]
  intro found hfound
  exact ((Values.told_iff layout.nodup).mp ((readRecord_object_iff layout.nodup).mp hfound)).1

theorem read_list_iff {items : List Item} :
    layout.read (Utf8.encode (Item.list items).toText) = .ok a ↔
      items = Values.items layout.shape.fields (layout.values a) := by
  rw [read, layout.map_make_eq_ok_iff, readRecord_list_iff, and_iff_left (layout.fit a)]
  exact fun found hfound => (readRecord_list_iff.mp hfound).2

theorem refused_of_field {name : String} {kind : Kind}
    (hmem : (name, kind) ∈ layout.shape.fields)
    (h : ∀ value, kind.Fits value → object.filter (·.1 = name) ≠ [(name, kind.item value)]) :
    Refused (layout.read (Utf8.encode (Item.object object).toText)) := by
  refine refused_iff.mpr fun a hread => ?_
  obtain ⟨value, hone, hfits⟩ := (layout.read_object_iff.mp hread).of_mem hmem
  exact h value hfits hone

theorem refused_of_missing {field : String × Kind} (hfield : field ∈ layout.shape.fields)
    (h : field.1 ∉ object.map (·.1)) :
    Refused (layout.read (Utf8.encode (Item.object object).toText)) := by
  refine layout.refused_of_field hfield fun value _ hone => h ?_
  have hmem := List.mem_filter.mp (hone ▸ List.mem_singleton_self _)
  exact List.mem_map_of_mem hmem.1

theorem refused_of_repeated {field : String × Kind} (hfield : field ∈ layout.shape.fields)
    (h : 2 ≤ (object.map (·.1)).count field.1) :
    Refused (layout.read (Utf8.encode (Item.object object).toText)) := by
  refine layout.refused_of_field hfield fun value _ hone => ?_
  have hcount : (object.map (·.1)).count field.1 = (object.filter (·.1 = field.1)).length := by
    rw [List.count_eq_length_filter, List.filter_map, List.length_map]
    congr 1
  rw [hcount, hone] at h
  exact absurd h (by simp)

theorem refused_of_outside {name : String} {type : IntegerType}
    (hfield : (name, Kind.integer type) ∈ layout.shape.fields) {i : Item}
    (hmem : (name, i) ∈ object) (h : ∀ n, type.low ≤ n → n ≤ type.high → i ≠ .integer n) :
    Refused (layout.read (Utf8.encode (Item.object object).toText)) := by
  refine layout.refused_of_field hfield fun value hfits hone => ?_
  have hnamed : (name, i) ∈ object.filter (·.1 = name) := List.mem_filter.mpr ⟨hmem, by simp⟩
  rw [hone] at hnamed
  obtain ⟨hlow, hhigh, -⟩ := hfits
  exact h value hlow hhigh (Prod.mk.inj (List.mem_singleton.mp hnamed)).2

/-- **What is written is read, and what else is read and refused is known.** -/
theorem mirrors {members : α → List (String × Item)} {toJson : α → Value}
    {ofJson : Bytes → Except Problem α}
    (hmembers : ∀ a, members a = Values.members layout.shape.fields (layout.values a))
    (hwritten : ∀ a, toJson a = .object (Values.toJson layout.shape.fields (layout.values a)))
    (hread : ∀ text, ofJson text = layout.read text) :
    Mirrors layout.shape members toJson ofJson := by
  have hobject : ∀ a object, ofJson (Utf8.encode (Item.object object).toText) = .ok a ↔
      ∃ others, object.Perm (members a ++ others) ∧
        ∀ member ∈ others, member.1 ∉ layout.shape.fields.map (·.1) := by
    intro a object
    rw [hread, layout.read_object_iff, Values.told_iff layout.nodup, hmembers,
      and_iff_right (layout.fit a)]
  refine ⟨?_, ?_, hobject, ?_, ?_, ?_⟩
  · intro a
    rw [hread, read, readRecord_written layout.nodup (layout.fit a) (hwritten a)]
    exact congrArg Except.ok (layout.make_values a)
  · intro a items
    rw [hread, layout.read_list_iff, hmembers, Values.map_members_snd]
  · intro field hfield object hmissing
    rw [hread]
    exact layout.refused_of_missing hfield hmissing
  · intro field hfield object hrepeated
    rw [hread]
    exact layout.refused_of_repeated hfield hrepeated
  · intro name type hfield object i hmem houtside
    rw [hread]
    exact layout.refused_of_outside hfield hmem houtside

end Layout

end UserAccounts.Json
