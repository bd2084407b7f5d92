/-
# What becomes of a user's status

Calls move a user to another status, which they name themselves or by a text
(`StatusCall`); a call that fails leaves the user alone. Each call that succeeds
follows one of four edges (`Status.Edge`) and changes nothing but the status, so
whatever calls are made, the other fields stay and the statuses are a path along
edges; no edge leaves the status of a deleted user.

A text names a status by its code, in capital or small letters of ASCII. What a call
is answered is said by `StatusCall.Answered`, one case for each answer: the text is
blank, it names no status, it names the status the user has, the user is deleted, or
the user is moved.

Key definitions: `Text.SameButCase`, `Status.Edge`, `StatusCall`, `User.after`,
`StatusCall.Answered`.
Key theorems: `Status.ofCode?_eq_some_iff`, `User.call_answered`, `User.call_eq_ok_iff`,
`status_follows_edges`.
-/
import Mathlib.Data.List.Forall2
import Mathlib.Logic.Relation
import UserAccounts.User.Basic

namespace UserAccounts

/-! ### Letters without regard to case -/

namespace Text

/-- The same character, or a capital letter of ASCII and its small letter. -/
def SameLetter (c d : Char) : Prop :=
  c = d ∨ ('A' ≤ c ∧ c ≤ 'Z' ∧ d.toNat = c.toNat + 32) ∨
    ('A' ≤ d ∧ d ≤ 'Z' ∧ c.toNat = d.toNat + 32)

/-- The same text, up to the case of ASCII letters. -/
def SameButCase (s t : String) : Prop :=
  List.Forall₂ SameLetter s.toList t.toList

theorem toNat_toUpper (c : Char) :
    c.toUpper.toNat = if 97 ≤ c.toNat ∧ c.toNat ≤ 122 then c.toNat - 32 else c.toNat := by
  have hsmall : ('a'.val ≤ c.val ∧ c.val ≤ 'z'.val) ↔ (97 ≤ c.toNat ∧ c.toNat ≤ 122) := Iff.rfl
  unfold Char.toUpper
  by_cases h : 97 ≤ c.toNat ∧ c.toNat ≤ 122
  · rw [dif_pos (hsmall.mpr h), if_pos h]
    have hsum : (c.val + ('A'.val - 'a'.val)).toNat = (c.toNat + 4294967264) % 4294967296 :=
      UInt32.toNat_add _ _
    show (c.val + ('A'.val - 'a'.val)).toNat = _
    omega
  · rw [dif_neg fun hc => h (hsmall.mp hc), if_neg h]

theorem le_iff_toNat {c d : Char} : c ≤ d ↔ c.toNat ≤ d.toNat :=
  Iff.rfl

theorem toNat_of_isUpper {c : Char} (h : c.isUpper = true) : 65 ≤ c.toNat ∧ c.toNat ≤ 90 := by
  have hbounds : 'A'.val ≤ c.val ∧ c.val ≤ 'Z'.val := of_decide_eq_true h
  exact hbounds

/-- What becomes a capital letter in capitals is the same letter. -/
theorem toUpper_eq_iff {c d : Char} (hd : d.isUpper = true) : c.toUpper = d ↔ SameLetter c d := by
  have hcapital := toNat_of_isUpper hd
  have hupper := toNat_toUpper c
  unfold SameLetter
  rw [← Char.toNat_inj, ← Char.toNat_inj, hupper, le_iff_toNat, le_iff_toNat, le_iff_toNat,
    le_iff_toNat, show 'A'.toNat = 65 from rfl, show 'Z'.toNat = 90 from rfl]
  split <;> omega

theorem isBlank_of_letter {c : Char} (h : c.toUpper.isUpper = true) : isBlank c = false := by
  have hcapital := toNat_of_isUpper h
  have hupper := toNat_toUpper c
  rw [Bool.eq_false_iff]
  intro hblank
  simp only [isBlank, Bool.or_eq_true, Bool.and_eq_true, decide_eq_true_eq, beq_iff_eq] at hblank
  split at hupper <;> omega

theorem map_toUpper_eq_iff : ∀ {cs ds : List Char}, (∀ d ∈ ds, d.isUpper = true) →
    (cs.map Char.toUpper = ds ↔ List.Forall₂ SameLetter cs ds)
  | [], [], _ => by simp
  | [], _ :: _, _ => by simp
  | _ :: _, [], _ => by simp
  | c :: cs, d :: ds, h => by
    have hfirst : c.toUpper = d ↔ SameLetter c d := toUpper_eq_iff (h d List.mem_cons_self)
    have hrest : cs.map Char.toUpper = ds ↔ List.Forall₂ SameLetter cs ds :=
      map_toUpper_eq_iff fun e he => h e (List.mem_cons_of_mem d he)
    rw [List.map_cons, List.cons.injEq, List.forall₂_cons, hfirst, hrest]

end Text

/-! ### Texts that name a status -/

namespace Status

theorem isUpper_of_mem_code {status : Status} {c : Char} (h : c ∈ status.code.toList) :
    c.isUpper = true := by
  have hall : status.code.toList.all Char.isUpper = true := by cases status <;> decide
  exact List.all_eq_true.mp hall c h

theorem ofExactCode?_eq_some_iff {s : String} {status : Status} :
    ofExactCode? s = some status ↔ s = status.code := by
  unfold ofExactCode?
  constructor
  · intro h
    have hcode := List.find?_some h
    exact (beq_iff_eq.mp hcode).symm
  · rintro rfl
    cases status <;> decide

/-- A text is read as a status exactly if it is the code of the status up to case. -/
theorem ofCode?_eq_some_iff {text : String} {status : Status} :
    ofCode? text = some status ↔ Text.SameButCase text status.code := by
  unfold ofCode? Text.SameButCase
  rw [ofExactCode?_eq_some_iff, ← Text.map_toUpper_eq_iff fun c hc => isUpper_of_mem_code hc]
  constructor
  · intro h
    rw [← h, String.toList_ofList]
  · intro h
    rw [h, String.ofList_toList]

theorem ofCode?_eq_none_iff {text : String} :
    ofCode? text = none ↔ ∀ status : Status, ¬ Text.SameButCase text status.code := by
  rw [Option.eq_none_iff_forall_ne_some]
  exact forall_congr' fun status => not_congr ofCode?_eq_some_iff

/-- A text that names a status is not blank: it begins with a letter. -/
theorem not_allBlank_of_names {text : String} {status : Status}
    (h : Text.SameButCase text status.code) : Text.allBlank text = false := by
  unfold Text.allBlank
  obtain ⟨d, ds, hcode⟩ : ∃ d ds, status.code.toList = d :: ds := by
    cases status <;> exact ⟨_, _, rfl⟩
  have hd : d.isUpper = true := isUpper_of_mem_code (by rw [hcode]; exact List.mem_cons_self)
  unfold Text.SameButCase at h
  rw [hcode] at h
  obtain ⟨c, cs, hc, -, htext⟩ := List.forall₂_cons_right_iff.mp h
  have hletter : c.toUpper.isUpper = true := by rw [(Text.toUpper_eq_iff hd).mpr hc, hd]
  rw [htext, List.all_cons, Text.isBlank_of_letter hletter, Bool.false_and]

example : ofCode? "fRoZeN" = some .frozen := by decide

/-- A small i without its dot is not a letter of ASCII. -/
example : ofCode? "act\u0131ve" = none := by decide

/-! ### Moving from one status to another -/

/-- The ways from one status to another. -/
inductive Edge : Status → Status → Prop where
  | freeze : Edge .active .frozen
  | thaw : Edge .frozen .active
  | deleteActive : Edge .active .deleted
  | deleteFrozen : Edge .frozen .deleted

theorem canBecome_eq_true_iff {current target : Status} :
    current.canBecome target = true ↔ current.Edge target := by
  constructor
  · intro h
    cases current <;> cases target <;> first | constructor | exact absurd h (by decide)
  · rintro (_ | _ | _ | _) <;> rfl

/-- Nothing leads away from the status of a deleted user, and from any other all lead to any
status but itself. -/
theorem edge_iff {current target : Status} :
    current.Edge target ↔ target ≠ current ∧ current ≠ .deleted := by
  rw [← canBecome_eq_true_iff]
  cases current <;> cases target <;> decide

theorem transition_of_edge {current target : Status} (h : current.Edge target) :
    current.transition target = .ok target := by
  unfold transition
  rw [if_neg fun he => (edge_iff.mp h).1 he.symm, if_pos (canBecome_eq_true_iff.mpr h)]

theorem transition_self (status : Status) :
    status.transition status = .error (.statusUnchanged status) :=
  if_pos rfl

theorem transition_of_deleted {target : Status} (h : target ≠ .deleted) :
    Status.deleted.transition target = .error (.statusFinal .deleted target) := by
  unfold transition
  rw [if_neg h.symm, if_neg]
  intro hbecome
  exact (edge_iff.mp (canBecome_eq_true_iff.mp hbecome)).2 rfl

end Status

/-! ### Calls -/

/-- A call to move a user to a status, which it names itself or by a text. -/
inductive StatusCall where
  | direct (target : Status)
  | named (text : String)

/-- The call names the status. -/
def StatusCall.Names : StatusCall → Status → Prop
  | .direct target, status => target = status
  | .named text, status => Text.SameButCase text status.code

namespace User

def call (user : User) : StatusCall → Except Violation User
  | .direct target => user.updateStatus target
  | .named text => user.updateStatusFrom text

/-- The user behind a call: another one if it succeeds, and else the same. -/
def goOn (user : User) (call : StatusCall) : User :=
  match user.call call with
  | .ok next => next
  | .error _ => user

/-- The user behind calls, one after another. -/
def after (user : User) (calls : List StatusCall) : User :=
  calls.foldl goOn user

end User

/-- What a call on a user is answered. -/
inductive StatusCall.Answered (user : User) : StatusCall → Except Complaint User → Prop where
  /-- The text has nothing but white space, if anything. -/
  | missing {text : String} (hblank : ∀ c ∈ text.toList, Text.isBlank c = true) :
    Answered user (.named text) (.error { message := "status is required" })
  /-- The text is the code of no status; it is given back as it came. -/
  | unknown {text : String} (hblank : ∃ c ∈ text.toList, Text.isBlank c = false)
      (hnone : ∀ status : Status, ¬ Text.SameButCase text status.code) :
    Answered user (.named text)
      (.error { message := "invalid user status", details := ⟨[("status", text)]⟩ })
  /-- The user has this status already. -/
  | unchanged {call : StatusCall} (hnames : call.Names user.status) :
    Answered user call
      (.error { message := "status is not changed", details := ⟨[("status", user.status.code)]⟩ })
  /-- The user is deleted. -/
  | final {call : StatusCall} {target : Status} (hnames : call.Names target)
      (hne : target ≠ user.status) (hdeleted : user.status = .deleted) :
    Answered user call
      (.error { message := "deleted user status cannot transition"
                details := ⟨[("current", user.status.code), ("target", target.code)]⟩ })
  /-- The user is moved. -/
  | moved {call : StatusCall} {target : Status} (hnames : call.Names target)
      (hne : target ≠ user.status) (hdeleted : user.status ≠ .deleted) :
    Answered user call (.ok { user with status := target })

namespace User

variable {user next : User} {call : StatusCall} {target : Status} {text : String}

theorem statusFinal_complaint (current target : Status) :
    (Violation.statusFinal current target).complaint =
      { message := "deleted user status cannot transition"
        details := ⟨[("current", current.code), ("target", target.code)]⟩ } := by
  have hless : ¬ "target" < "current" := by decide
  have hne : "target" ≠ "current" := by decide
  have hdetails : Details.ofList [("current", current.code), ("target", target.code)] =
      ⟨[("current", current.code), ("target", target.code)]⟩ := by
    show Details.mk (if "target" < "current" then _ else if "target" = "current" then _ else _) = _
    rw [if_neg hless, if_neg hne]
    rfl
  exact congrArg (Complaint.mk "deleted user status cannot transition") hdetails

theorem call_of_names (h : call.Names target) : user.call call = user.updateStatus target := by
  cases call with
  | direct status =>
    obtain rfl : status = target := h
    rfl
  | named text =>
    have hread : Status.read text = .ok target := by
      unfold Status.read
      rw [Status.ofCode?_eq_some_iff.mpr h]
    show user.updateStatusFrom text = _
    unfold updateStatusFrom
    rw [Status.not_allBlank_of_names h, hread]
    rfl

theorem call_answered (user : User) (call : StatusCall) :
    call.Answered user ((user.call call).mapError Violation.complaint) := by
  by_cases hnames : ∃ target, call.Names target
  · obtain ⟨target, hnames⟩ := hnames
    rw [call_of_names hnames]
    unfold updateStatus
    by_cases hsame : target = user.status
    · subst hsame
      rw [Status.transition_self]
      exact .unchanged hnames
    · by_cases hdeleted : user.status = .deleted
      · have hne : target ≠ .deleted := hdeleted ▸ hsame
        have hanswer := StatusCall.Answered.final hnames hsame hdeleted
        rw [← statusFinal_complaint, hdeleted] at hanswer
        rw [hdeleted, Status.transition_of_deleted hne]
        exact hanswer
      · rw [Status.transition_of_edge (Status.edge_iff.mpr ⟨hsame, hdeleted⟩)]
        exact .moved hnames hsame hdeleted
  · cases call with
    | direct target => exact absurd ⟨target, rfl⟩ hnames
    | named text =>
      have hnone : ∀ status : Status, ¬ Text.SameButCase text status.code :=
        fun status hstatus => hnames ⟨status, hstatus⟩
      show StatusCall.Answered user _ ((user.updateStatusFrom text).mapError Violation.complaint)
      unfold updateStatusFrom
      cases hblank : Text.allBlank text with
      | true => exact .missing (List.all_eq_true.mp hblank)
      | false =>
        have hread : Status.read text = .error (.statusUnknown text) := by
          unfold Status.read
          rw [Status.ofCode?_eq_none_iff.mpr hnone]
        rw [hread]
        obtain ⟨c, hc, hb⟩ := List.all_eq_false.mp hblank
        exact .unknown ⟨c, hc, Bool.eq_false_iff.mpr hb⟩ hnone

/-- A call succeeds exactly if it names another status and the user is not deleted. -/
theorem call_eq_ok_iff :
    user.call call = .ok next ↔
      ∃ target, call.Names target ∧ user.status.Edge target ∧
        next = { user with status := target } := by
  constructor
  · intro h
    have hanswer := call_answered user call
    rw [h] at hanswer
    cases hanswer with
    | moved hnames hne hdeleted =>
      exact ⟨_, hnames, Status.edge_iff.mpr ⟨hne, hdeleted⟩, rfl⟩
  · rintro ⟨target, hnames, hedge, rfl⟩
    rw [call_of_names hnames]
    unfold updateStatus
    rw [Status.transition_of_edge hedge]
    rfl

/-! ### Calls one after another -/

theorem goOn_follows (user : User) (call : StatusCall) :
    user.goOn call = user ∨
      ∃ target, user.status.Edge target ∧ user.goOn call = { user with status := target } := by
  unfold goOn
  cases h : user.call call with
  | error violation => exact .inl rfl
  | ok next =>
    obtain ⟨target, -, hedge, rfl⟩ := call_eq_ok_iff.mp h
    exact .inr ⟨target, hedge, rfl⟩

theorem after_cons (user : User) (call : StatusCall) (calls : List StatusCall) :
    user.after (call :: calls) = (user.goOn call).after calls :=
  List.foldl_cons ..

/-- Behind calls the user is the same but for the status, to which a path leads. -/
theorem after_follows : ∀ (calls : List StatusCall) (user : User),
    Relation.ReflTransGen Status.Edge user.status (user.after calls).status ∧
      user.after calls = { user with status := (user.after calls).status }
  | [], _ => ⟨.refl, rfl⟩
  | call :: calls, user => by
    obtain ⟨hpath, hkept⟩ := after_follows calls (user.goOn call)
    rw [after_cons]
    rcases user.goOn_follows call with hsame | ⟨target, hedge, hnext⟩
    · rw [hsame] at hpath hkept ⊢
      exact ⟨hpath, hkept⟩
    · rw [hnext] at hpath hkept ⊢
      exact ⟨.head hedge hpath, hkept⟩

theorem call_of_deleted (h : user.status = .deleted) (call : StatusCall) :
    ∃ violation, user.call call = .error violation := by
  cases hcall : user.call call with
  | error violation => exact ⟨violation, rfl⟩
  | ok next =>
    obtain ⟨target, -, hedge, -⟩ := call_eq_ok_iff.mp hcall
    exact absurd h (Status.edge_iff.mp hedge).2

/-- A deleted user stays as it is. -/
theorem after_of_deleted (h : user.status = .deleted) : ∀ calls : List StatusCall,
    user.after calls = user
  | [] => rfl
  | call :: calls => by
    have hsame : user.goOn call = user := by
      obtain ⟨violation, hfails⟩ := call_of_deleted h call
      unfold goOn
      rw [hfails]
    rw [after_cons, hsame, after_of_deleted h calls]

end User

/-- **What becomes of a user by calls for another status.** Whatever calls have been made, all but
the status is as it was, and the statuses have followed edges; so does the next call if it succeeds.
Once the user is deleted, the user stays so and every later call fails. A text is accepted exactly
if it is the code, up to case, of a status other than the present one, and the user is not deleted;
every call is answered as `StatusCall.Answered` says. -/
theorem status_follows_edges (user : User) (calls : List StatusCall) :
    let present := user.after calls
    (present.id = user.id ∧ present.email = user.email ∧
      present.passwordHash = user.passwordHash ∧ present.name = user.name ∧
      present.createdAt = user.createdAt) ∧
    Relation.ReflTransGen Status.Edge user.status present.status ∧
    (∀ call next, present.call call = .ok next → present.status.Edge next.status) ∧
    (present.status = .deleted → ∀ later call, present.after later = present ∧
      ∃ violation, (present.after later).call call = .error violation) ∧
    (∀ text, (∃ next, present.updateStatusFrom text = .ok next) ↔
      present.status ≠ .deleted ∧
        ∃ status : Status, status ≠ present.status ∧ Text.SameButCase text status.code) ∧
    ∀ call : StatusCall,
      call.Answered present ((present.call call).mapError Violation.complaint) := by
  intro present
  obtain ⟨hpath, hkept⟩ := User.after_follows calls user
  refine ⟨?_, hpath, ?_, ?_, ?_, present.call_answered⟩
  · have hfields : ∀ {α : Type} (field : User → α),
        field present = field { user with status := present.status } :=
      fun field => congrArg field hkept
    exact ⟨hfields User.id, hfields User.email, hfields User.passwordHash, hfields User.name,
      hfields User.createdAt⟩
  · intro call next hcall
    obtain ⟨target, -, hedge, rfl⟩ := User.call_eq_ok_iff.mp hcall
    exact hedge
  · intro hdeleted later call
    rw [User.after_of_deleted hdeleted later]
    exact ⟨rfl, User.call_of_deleted hdeleted call⟩
  · intro text
    have hcalls : ∀ next, present.call (.named text) = .ok next ↔
        ∃ target, StatusCall.Names (.named text) target ∧ present.status.Edge target ∧
          next = { present with status := target } :=
      fun _ => User.call_eq_ok_iff
    constructor
    · rintro ⟨next, hcall⟩
      obtain ⟨target, hnames, hedge, -⟩ := (hcalls next).mp hcall
      obtain ⟨hne, hdeleted⟩ := Status.edge_iff.mp hedge
      exact ⟨hdeleted, target, hne, hnames⟩
    · rintro ⟨hdeleted, status, hne, hnames⟩
      have hedge : present.status.Edge status := Status.edge_iff.mpr ⟨hne, hdeleted⟩
      exact ⟨_, (hcalls _).mpr ⟨status, hnames, hedge, rfl⟩⟩

end UserAccounts
