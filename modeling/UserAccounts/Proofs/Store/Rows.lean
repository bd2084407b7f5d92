/-
# What rows and drafts hold

Rows are read through `Rows.get?`, `Rows.contains` and `Rows.size`. Creating
users never replaces a row: whatever is created stands behind the rows there are,
each user under its own email address (`Rows.extend`). A list of users can be
added together when there is room for it (`Rows.HasRoomFor`): no address occurs
in it twice, and none is taken. A draft commits exactly in that case
(`Draft.commit_eq_ok_iff`); that its own addresses differ is kept by every
creation in it (`Draft.Distinct.create`) and not looked at again.

Key definitions: `Rows.extend`, `Rows.HasRoomFor`, `Rows.WellKept`,
`Draft.Distinct`.
Key theorems: `Draft.create_eq_ok_iff`, `Draft.commit_of_room`, `Draft.commit_eq_ok_iff`,
`Rows.WellKept.extend`.
-/
import Mathlib.Data.List.Nodup
import UserAccounts.Store.Persistence

namespace UserAccounts

namespace Rows

variable {rows more : Rows} {email : String} {user : User} {users : List User}

/-! ### Reading -/

theorem contains_eq_isSome (rows : Rows) (email : String) :
    rows.contains email = (rows.get? email).isSome := by
  unfold contains get?
  rw [Option.isSome_map, List.isSome_find?]

theorem get?_eq_none_iff : rows.get? email = none ↔ rows.contains email = false := by
  rw [contains_eq_isSome, Option.isSome_eq_false_iff, Option.isNone_iff_eq_none]

theorem contains_eq_false_iff :
    rows.contains email = false ↔ ∀ entry ∈ rows.entries, entry.1 ≠ email := by
  unfold contains
  rw [List.any_eq_false]
  exact forall₂_congr fun entry _ => not_congr beq_iff_eq

theorem contains_of_get? (h : rows.get? email = some user) : rows.contains email = true := by
  rw [contains_eq_isSome, h]
  rfl

theorem exists_get?_of_contains (h : rows.contains email = true) :
    ∃ user, rows.get? email = some user := by
  rw [contains_eq_isSome] at h
  exact Option.isSome_iff_exists.mp h

theorem find_eq_ok_iff : rows.find email = .ok user ↔ rows.get? email = some user := by
  unfold find
  cases rows.get? email <;> simp

@[simp] theorem get?_empty (email : String) : empty.get? email = none := rfl
@[simp] theorem contains_empty (email : String) : empty.contains email = false := rfl

/-! ### Adding users -/

/-- The rows with these users behind them, each under its own address. -/
def extend (rows : Rows) (users : List User) : Rows :=
  ⟨rows.entries ++ users.map fun user => (user.email, user)⟩

@[simp] theorem extend_nil (rows : Rows) : rows.extend [] = rows := by
  simp [extend]

@[simp] theorem extend_extend (rows : Rows) (users others : List User) :
    (rows.extend users).extend others = rows.extend (users ++ others) := by
  simp [extend]

@[simp] theorem size_extend (rows : Rows) (users : List User) :
    (rows.extend users).size = rows.size + users.length := by
  simp [extend, size]

theorem get?_extend (rows : Rows) (users : List User) (email : String) :
    (rows.extend users).get? email = (rows.get? email).or (users.find? (·.email == email)) := by
  have hmap : (users.map fun user => (user.email, user)).find? (·.1 == email) =
      (users.find? (·.email == email)).map fun user => (user.email, user) := by
    rw [List.find?_map]
    rfl
  unfold get? extend
  rw [List.find?_append, Option.map_or, hmap, Option.map_map]
  congr 1
  exact Option.map_id'

@[simp] theorem contains_extend (rows : Rows) (users : List User) (email : String) :
    (rows.extend users).contains email = (rows.contains email || users.any (·.email == email)) := by
  simp [contains, extend, List.any_append, List.any_map, Function.comp_def]

theorem get?_extend_of_some (h : rows.get? email = some user) (users : List User) :
    (rows.extend users).get? email = some user := by
  rw [get?_extend, h]
  rfl

theorem find_extend_of_ne (h : ∀ user ∈ users, user.email ≠ email) :
    (rows.extend users).find email = rows.find email := by
  have hnone : users.find? (·.email == email) = none :=
    List.find?_eq_none.mpr fun u hu => by simpa using h u hu
  unfold find
  rw [get?_extend, hnone, Option.or_none]

theorem insertEntry_of_free : ∀ {entries : List (String × User)},
    entries.any (·.1 == email) = false →
      insertEntry email user entries = entries ++ [(email, user)]
  | [], _ => rfl
  | (e, u) :: rest, h => by
    rw [List.any_cons, Bool.or_eq_false_iff] at h
    have he : ¬ e = email := by simpa using h.1
    rw [insertEntry, if_neg he, insertEntry_of_free h.2]
    rfl

/-- Putting a user under its own address, if that is free, replaces nothing. -/
theorem insert_of_free (h : rows.contains user.email = false) :
    rows.insert user.email user = rows.extend [user] := by
  unfold insert extend
  rw [insertEntry_of_free h]
  rfl

theorem create_of_free (h : rows.contains user.email = false) :
    rows.create user = .ok (rows.extend [user]) := by
  unfold create
  rw [h, insert_of_free h]
  rfl

theorem create_of_taken (h : rows.contains user.email = true) :
    rows.create user = .error (emailTaken user) := by
  unfold create
  rw [h]
  rfl

/-! ### Room for several users -/

/-- The users can be added together: no two of them share an address, and none of their addresses
is taken. -/
structure HasRoomFor (rows : Rows) (users : List User) : Prop where
  distinct : (users.map (·.email)).Nodup
  free : ∀ user ∈ users, rows.contains user.email = false

theorem hasRoomFor_singleton : rows.HasRoomFor [user] ↔ rows.contains user.email = false :=
  ⟨fun h => h.free user (List.mem_singleton_self user),
    fun h => ⟨List.nodup_singleton _, fun _ hu => List.mem_singleton.mp hu ▸ h⟩⟩

theorem hasRoomFor_cons :
    rows.HasRoomFor (user :: users) ↔
      rows.contains user.email = false ∧ (rows.extend [user]).HasRoomFor users := by
  constructor
  · intro ⟨hd, hf⟩
    rw [List.map_cons, List.nodup_cons] at hd
    refine ⟨hf user List.mem_cons_self, hd.2, fun u hu => ?_⟩
    have hne : user.email ≠ u.email := fun he => hd.1 (he ▸ List.mem_map_of_mem hu)
    simp [hf u (List.mem_cons_of_mem _ hu), hne]
  · intro ⟨hfree, hd, hf⟩
    have hrest : ∀ u ∈ users, rows.contains u.email = false ∧ user.email ≠ u.email := by
      intro u hu
      simpa using hf u hu
    refine ⟨List.nodup_cons.mpr ⟨fun hm => ?_, hd⟩, fun u hu => ?_⟩
    · obtain ⟨u, hu, he⟩ := List.mem_map.mp hm
      exact (hrest u hu).2 he.symm
    · rcases List.mem_cons.mp hu with rfl | hu
      · exact hfree
      · exact (hrest u hu).1

/-- With room for the users, each of them is found when they have been added. -/
theorem get?_extend_of_mem (h : rows.HasRoomFor users) (hu : user ∈ users) :
    (rows.extend users).get? user.email = some user := by
  rw [get?_extend, get?_eq_none_iff.mpr (h.free user hu), Option.none_or]
  cases hfind : users.find? (·.email == user.email) with
  | none =>
    have := List.find?_eq_none.mp hfind user hu
    simp at this
  | some other =>
    have he : other.email = user.email := by simpa using List.find?_some hfind
    have := List.inj_on_of_nodup_map h.distinct (List.mem_of_find?_eq_some hfind) hu he
    rw [this]

/-! ### Rows in good order -/

/-- Every row is under its user's own address, and no two are under the same. -/
structure WellKept (rows : Rows) : Prop where
  ownEmail : ∀ entry ∈ rows.entries, entry.1 = entry.2.email
  distinct : (rows.entries.map (·.1)).Nodup

theorem wellKept_empty : empty.WellKept :=
  ⟨fun _ h => absurd h List.not_mem_nil, List.nodup_nil⟩

theorem WellKept.extend (h : rows.WellKept) (hroom : rows.HasRoomFor users) :
    (rows.extend users).WellKept := by
  constructor
  · intro entry he
    rcases List.mem_append.mp he with he | he
    · exact h.ownEmail entry he
    · obtain ⟨user, -, rfl⟩ := List.mem_map.mp he
      rfl
  · have hmap : (users.map fun user => (user.email, user)).map (·.1) = users.map (·.email) := by
      rw [List.map_map]
      rfl
    rw [Rows.extend, List.map_append, hmap, List.nodup_append]
    refine ⟨h.distinct, hroom.distinct, ?_⟩
    rintro _ hrow _ huser rfl
    obtain ⟨entry, he, hk⟩ := List.mem_map.mp hrow
    obtain ⟨user, hu, hue⟩ := List.mem_map.mp huser
    have htaken : rows.contains user.email = true :=
      List.any_eq_true.mpr ⟨entry, he, by simp [hk, hue]⟩
    rw [hroom.free user hu] at htaken
    exact absurd htaken Bool.false_ne_true

end Rows

namespace Draft

variable {draft more : Draft} {rows after : Rows} {user : User}

/-! ### Drafts -/

/-- No two users of the draft share an address. -/
def Distinct (draft : Draft) : Prop :=
  (draft.users.map (·.email)).Nodup

theorem distinct_empty : empty.Distinct :=
  List.nodup_nil

theorem contains_eq_false_iff {email : String} :
    draft.contains email = false ↔ ∀ user ∈ draft.users, user.email ≠ email := by
  simp [contains]

theorem create_eq_ok_iff :
    draft.create rows user = .ok more ↔
      (draft.contains user.email = false ∧ rows.contains user.email = false) ∧
        more = ⟨draft.users ++ [user]⟩ := by
  unfold create
  cases hd : draft.contains user.email <;> cases hr : rows.contains user.email <;> simp [eq_comm]

theorem create_eq_error {failure : Failure} (h : draft.create rows user = .error failure) :
    (draft.contains user.email = true ∨ rows.contains user.email = true) ∧
      failure = emailTaken user := by
  unfold create at h
  split at h
  · rename_i htaken
    exact ⟨Bool.or_eq_true_iff.mp htaken, (Except.error.inj h).symm⟩
  · cases h

theorem Distinct.create (h : draft.Distinct) (hc : draft.create rows user = .ok more) :
    more.Distinct := by
  obtain ⟨⟨hfree, -⟩, rfl⟩ := create_eq_ok_iff.mp hc
  unfold Distinct
  rw [List.map_append, List.nodup_append]
  refine ⟨h, List.nodup_singleton _, ?_⟩
  intro a ha b hb
  obtain ⟨u, hu, rfl⟩ := List.mem_map.mp ha
  rw [List.mem_singleton.mp hb]
  exact contains_eq_false_iff.mp hfree u hu

theorem foldl_insert_of_room : ∀ {users : List User} {rows : Rows}, rows.HasRoomFor users →
    users.foldl (fun rows user => rows.insert user.email user) rows = rows.extend users
  | [], rows, _ => (Rows.extend_nil rows).symm
  | user :: users, rows, h => by
    obtain ⟨hfree, hrest⟩ := Rows.hasRoomFor_cons.mp h
    rw [List.foldl_cons, Rows.insert_of_free hfree, foldl_insert_of_room hrest, Rows.extend_extend]
    rfl

theorem commit_of_room (h : rows.HasRoomFor draft.users) :
    draft.commit rows = .ok (rows.extend draft.users) := by
  unfold commit
  have hnone : draft.users.find? (fun user => rows.contains user.email) = none :=
    List.find?_eq_none.mpr fun u hu => by simp [h.free u hu]
  rw [hnone, foldl_insert_of_room h]

/-- A commit that fails names a user of the draft whose address is taken. -/
theorem commit_eq_error {failure : Failure} (h : draft.commit rows = .error failure) :
    ∃ user ∈ draft.users, rows.contains user.email = true ∧ failure = emailTaken user := by
  unfold commit at h
  cases hfind : draft.users.find? (fun user => rows.contains user.email) with
  | none => simp [hfind] at h
  | some user =>
    rw [hfind] at h
    have htaken : rows.contains user.email = true := by simpa using List.find?_some hfind
    exact ⟨user, List.mem_of_find?_eq_some hfind, htaken, (Except.error.inj h).symm⟩

/-- **A draft commits if and only if there is room for it**; then its users stand behind the
rows there were. -/
theorem commit_eq_ok_iff (hd : draft.Distinct) :
    draft.commit rows = .ok after ↔
      rows.HasRoomFor draft.users ∧ after = rows.extend draft.users := by
  constructor
  · intro h
    have hroom : rows.HasRoomFor draft.users := by
      refine ⟨hd, fun u hu => ?_⟩
      unfold commit at h
      cases hfind : draft.users.find? (fun user => rows.contains user.email) with
      | none => simpa using List.find?_eq_none.mp hfind u hu
      | some user => simp [hfind] at h
    rw [commit_of_room hroom] at h
    exact ⟨hroom, (Except.ok.inj h).symm⟩
  · rintro ⟨hroom, rfl⟩
    exact commit_of_room hroom

end Draft

namespace Persistence

variable {rows more : Rows} {draft after : Draft} {user : User} {failure : Failure}

/-! ### Keeping users in memory -/

theorem memory_start (rows : Rows) : memory.start rows = (.ok .empty, rows) := rfl

theorem memory_create_of_free (h : rows.contains user.email = false) :
    memory.create user rows = (.ok user, rows.extend [user]) := by
  simp only [memory, Rows.create_of_free h]

theorem memory_create_of_taken (h : rows.contains user.email = true) :
    memory.create user rows = (.error (emailTaken user), rows) := by
  simp only [memory, Rows.create_of_taken h]

theorem memory_createIn_of_ok (h : draft.create rows user = .ok after) :
    memory.createIn user draft rows = (.ok user, after, rows) := by
  simp only [memory, h]

theorem memory_createIn_of_error (h : draft.create rows user = .error failure) :
    memory.createIn user draft rows = (.error failure, draft, rows) := by
  simp only [memory, h]

theorem memory_commit_of_ok (h : draft.commit rows = .ok more) :
    memory.commit draft rows = (.ok (), more) := by
  simp only [memory, h]

theorem memory_commit_of_error (h : draft.commit rows = .error failure) :
    memory.commit draft rows = (.error failure, rows) := by
  simp only [memory, h]

end Persistence

end UserAccounts
