/-
# Rows are read as users, and users are written as rows

Writing spells a status by its code, in capital letters. Reading is less strict: it
takes the code in capital or small letters of ASCII, and any other text is a fault
inside, since no client has sent it (`Row.toUser_of_unknown`). So what is written is
read as it was, and what is read is written again with its code in capitals and all
else as it was (`Row.toUser_eq_ok_iff`). A row that is in this form already stays as
it is (`Row.Canonical`), and doing it twice is the same as doing it once.

Key definitions: `Text.capitals`, `Row.Canonical`, `Row.rewritten`.
Key theorems: `Row.toUser_ofUser`, `Row.toUser_eq_ok_iff`, `Row.toUser_eq_error_iff`,
`rows_fit_users`.
-/
import UserAccounts.Proofs.User.Status
import UserAccounts.Sql.Row

namespace UserAccounts

/-- A text with capital letters in place of the small letters of ASCII. -/
def Text.capitals (s : String) : String :=
  String.ofList (s.toList.map Char.toUpper)

namespace Status

theorem ofCode?_code (status : Status) : ofCode? status.code = some status := by
  cases status <;> decide

theorem capitals_eq_code_iff {text : String} {status : Status} :
    Text.capitals text = status.code ↔ Text.SameButCase text status.code := by
  rw [← ofCode?_eq_some_iff]
  exact ofExactCode?_eq_some_iff.symm

theorem capitals_code (status : Status) : Text.capitals status.code = status.code :=
  capitals_eq_code_iff.mpr (ofCode?_eq_some_iff.mp status.ofCode?_code)

theorem read_of_unknown {text : String}
    (h : ∀ status : Status, ¬ Text.SameButCase text status.code) :
    Status.read text = .error (.statusUnknown text) := by
  unfold Status.read
  rw [ofCode?_eq_none_iff.mpr h]

end Status

namespace Sql

variable {row : Row} {user : User} {status : Status}

/-! ### What is written is read -/

/-- **The row of a user is read as this user.** -/
theorem Row.toUser_ofUser (user : User) : (Row.ofUser user).toUser = .ok user := by
  unfold Row.toUser
  rw [show (Row.ofUser user).statusCode = user.status.code from rfl, Status.ofCode?_code]
  rfl

theorem Row.ofUser_injective {user other : User} (h : Row.ofUser user = Row.ofUser other) :
    user = other := by
  have hread := Row.toUser_ofUser user
  rw [h, Row.toUser_ofUser] at hread
  exact (Except.ok.inj hread).symm

/-! ### What is read is written -/

theorem Row.toUser_of_names (h : Text.SameButCase row.statusCode status.code) :
    row.toUser = .ok ⟨row.id, row.email, row.passwordHash, row.name, status, row.createdAt⟩ := by
  unfold Row.toUser
  rw [Status.ofCode?_eq_some_iff.mpr h]

theorem Row.toUser_of_unknown
    (h : ∀ status : Status, ¬ Text.SameButCase row.statusCode status.code) :
    row.toUser = .error (.internal (.storedStatusUnknown row.id row.statusCode)) := by
  unfold Row.toUser
  rw [Status.ofCode?_eq_none_iff.mpr h]

/-- A row is read as a user exactly if it is the user's row but for the case of its code. -/
theorem Row.toUser_eq_ok_iff :
    row.toUser = .ok user ↔
      Row.ofUser user = { row with statusCode := Text.capitals row.statusCode } := by
  constructor
  · intro h
    by_cases hnames : ∃ status : Status, Text.SameButCase row.statusCode status.code
    · obtain ⟨status, hstatus⟩ := hnames
      rw [Row.toUser_of_names hstatus] at h
      rw [← Except.ok.inj h, Status.capitals_eq_code_iff.mpr hstatus]
      rfl
    · rw [Row.toUser_of_unknown fun status hstatus => hnames ⟨status, hstatus⟩] at h
      cases h
  · intro h
    have hcode : user.status.code = Text.capitals row.statusCode := congrArg Row.statusCode h
    have hid : user.id = row.id := congrArg Row.id h
    have hemail : user.email = row.email := congrArg Row.email h
    have hhash : user.passwordHash = row.passwordHash := congrArg Row.passwordHash h
    have hname : user.name = row.name := congrArg Row.name h
    have hcreated : user.createdAt = row.createdAt := congrArg Row.createdAt h
    rw [Row.toUser_of_names (Status.capitals_eq_code_iff.mp hcode.symm), ← hid, ← hemail, ← hhash,
      ← hname, ← hcreated]

/-- A row cannot be read exactly if its code is no status's, in whatever case. -/
theorem Row.toUser_eq_error_iff {failure : Failure} :
    row.toUser = .error failure ↔
      (∀ status : Status, ¬ Text.SameButCase row.statusCode status.code) ∧
        failure = .internal (.storedStatusUnknown row.id row.statusCode) := by
  by_cases hnames : ∃ status : Status, Text.SameButCase row.statusCode status.code
  · obtain ⟨status, hstatus⟩ := hnames
    rw [Row.toUser_of_names hstatus]
    constructor
    · intro h
      cases h
    · rintro ⟨hnone, -⟩
      exact absurd hstatus (hnone status)
  · have hnone : ∀ status : Status, ¬ Text.SameButCase row.statusCode status.code :=
      fun status hstatus => hnames ⟨status, hstatus⟩
    rw [Row.toUser_of_unknown hnone]
    constructor
    · intro h
      exact ⟨hnone, (Except.error.inj h).symm⟩
    · rintro ⟨-, rfl⟩
      rfl

/-! ### Reading and writing again -/

/-- The code of the row is written as codes are. -/
def Row.Canonical (row : Row) : Prop :=
  ∃ status : Status, row.statusCode = status.code

/-- The row as it is written again when it has been read. -/
def Row.rewritten (row : Row) : Except Failure Row :=
  row.toUser.map Row.ofUser

theorem Row.rewritten_of_toUser (h : row.toUser = .ok user) :
    row.rewritten = .ok (Row.ofUser user) := by
  unfold Row.rewritten
  rw [h]
  rfl

/-- A row that can be read is written again as it is exactly if it is canonical. -/
theorem Row.ofUser_eq_iff (h : row.toUser = .ok user) : Row.ofUser user = row ↔ row.Canonical := by
  constructor
  · intro hsame
    exact ⟨user.status, (congrArg Row.statusCode hsame).symm⟩
  · rintro ⟨status, hcode⟩
    have hcapitals : Text.capitals row.statusCode = row.statusCode := by
      rw [hcode, Status.capitals_code]
    rw [Row.toUser_eq_ok_iff.mp h, hcapitals]

theorem Row.rewritten_idempotent {next : Row} (h : row.rewritten = .ok next) :
    next.rewritten = .ok next := by
  cases hread : row.toUser with
  | error failure =>
    unfold Row.rewritten at h
    rw [hread] at h
    cases h
  | ok user =>
    rw [Row.rewritten_of_toUser hread] at h
    rw [← Except.ok.inj h]
    exact Row.rewritten_of_toUser (Row.toUser_ofUser user)

/-- **Rows fit users.** The row of a user is read as this user. Any row can be read unless its code,
in whatever case, is no status's; then it is a fault inside that names the row and the code, though
the same text from a client is the client's fault. A row that has been read is written again with
its code in capitals and nothing else changed, so just as it was exactly if it was canonical; and
writing it again once more changes nothing. -/
theorem rows_fit_users :
    (∀ user : User, (Row.ofUser user).toUser = .ok user) ∧
    ∀ row : Row,
      ((∃ failure, row.toUser = .error failure) ↔
        ∀ status : Status, ¬ Text.SameButCase row.statusCode status.code) ∧
      (∀ failure, row.toUser = .error failure →
        failure = .internal (.storedStatusUnknown row.id row.statusCode) ∧
        Status.read row.statusCode = .error (.statusUnknown row.statusCode)) ∧
      (∀ user, row.toUser = .ok user →
        Row.ofUser user = { row with statusCode := Text.capitals row.statusCode } ∧
        (Row.ofUser user = row ↔ row.Canonical)) ∧
      ∀ next, row.rewritten = .ok next → next.rewritten = .ok next := by
  refine ⟨Row.toUser_ofUser, fun row => ⟨⟨?_, ?_⟩, ?_, ?_, ?_⟩⟩
  · rintro ⟨failure, hfails⟩
    exact (Row.toUser_eq_error_iff.mp hfails).1
  · intro hnone
    exact ⟨_, Row.toUser_of_unknown hnone⟩
  · intro failure hfails
    obtain ⟨hnone, hfailure⟩ := Row.toUser_eq_error_iff.mp hfails
    exact ⟨hfailure, Status.read_of_unknown hnone⟩
  · intro user hread
    exact ⟨Row.toUser_eq_ok_iff.mp hread, Row.ofUser_eq_iff hread⟩
  · intro next
    exact Row.rewritten_idempotent

end Sql

end UserAccounts
