/-
# Settings and claims as texts

The service's settings, the database's settings and the claims of a token are records of
texts and of whole numbers of 16, 32 or 64 bits. All their values fit the fields, and all
that fits the fields is a value (`ServiceSettings.layout`, `DatabaseSettings.layout`,
`Claims.layout`), so they and their texts mirror each other
(`settings_and_claims_mirrored`).

Key definitions: `ServiceSettings.members`, `DatabaseSettings.members`, `Claims.members`.
Key theorems: `settings_and_claims_mirrored`.
-/
import UserAccounts.Proofs.Json.Layout
import UserAccounts.Proofs.Token.Issuer
import UserAccounts.Settings.Json

namespace UserAccounts

/-! ### Whole numbers of a type -/

theorem Json.fits_of_limits {type : Json.IntegerType}
    (h : Json.FitsWord type.low ∧ Json.FitsWord type.high) {n : Int} (hlow : type.low ≤ n)
    (hhigh : n ≤ type.high) : (Json.Kind.integer type).Fits n :=
  ⟨hlow, hhigh, Int.le_trans h.1.1 hlow, Int.le_trans hhigh h.2.2⟩

theorem Json.fits_word16 (n : UInt16) : (Json.Kind.integer Json.word16).Fits (n.toNat : Int) :=
  Json.fits_of_limits (by decide) (Int.natCast_nonneg _)
    (Int.le_sub_one_of_lt (Int.ofNat_lt.mpr n.toNat_lt))

theorem Json.fits_word32 (n : UInt32) : (Json.Kind.integer Json.word32).Fits (n.toNat : Int) :=
  Json.fits_of_limits (by decide) (Int.natCast_nonneg _)
    (Int.le_sub_one_of_lt (Int.ofNat_lt.mpr n.toNat_lt))

theorem Json.toNat_word16 {n : Int} (h : (Json.Kind.integer Json.word16).Fits n) :
    ((UInt16.ofNat n.toNat).toNat : Int) = n := by
  have hnonneg : 0 ≤ n := h.1
  have hhigh : n < (UInt16.size : Int) := Int.lt_of_le_sub_one h.2.1
  have hlt : n.toNat < UInt16.size := by omega
  rw [UInt16.toNat_ofNat_of_lt' hlt, Int.toNat_of_nonneg hnonneg]

theorem Json.toNat_word32 {n : Int} (h : (Json.Kind.integer Json.word32).Fits n) :
    ((UInt32.ofNat n.toNat).toNat : Int) = n := by
  have hnonneg : 0 ≤ n := h.1
  have hhigh : n < (UInt32.size : Int) := Int.lt_of_le_sub_one h.2.1
  have hlt : n.toNat < UInt32.size := by omega
  rw [UInt32.toNat_ofNat_of_lt' hlt, Int.toNat_of_nonneg hnonneg]

theorem Json.toInt_signed64 {n : Int} (h : (Json.Kind.integer Json.signed64).Fits n) :
    (Int64.ofInt n).toInt = n := by
  exact Int64.toInt_ofInt_of_le h.1 (Int.lt_add_one_of_le h.2.1)

/-! ### Settings -/

open Json (Item Layout Mirrors Values)

def ServiceSettings.members (s : ServiceSettings) : List (String × Item) :=
  [("service_name", .text s.serviceName), ("host", .text s.host),
    ("port", .integer s.port.toNat)]

def ServiceSettings.layout : Layout ServiceSettings where
  shape := shape
  values s := (s.serviceName, s.host, (s.port.toNat : Int), ())
  make found := ⟨found.1, found.2.1, UInt16.ofNat found.2.2.1.toNat⟩
  nodup := by decide
  fit s := ⟨trivial, trivial, Json.fits_word16 s.port, trivial⟩
  make_values s := by simp
  values_make := by
    rintro ⟨serviceName, host, port, ⟨⟩⟩ ⟨-, -, hport, -⟩
    rw [Json.toNat_word16 hport]

theorem ServiceSettings.ofJson_eq (text : Bytes) :
    ServiceSettings.ofJson text = ServiceSettings.layout.read text := by
  show ServiceSettings.ofJson text = (Json.readRecord ServiceSettings.shape text).map _
  unfold ServiceSettings.ofJson
  cases Json.readRecord ServiceSettings.shape text <;> rfl

def DatabaseSettings.members (s : DatabaseSettings) : List (String × Item) :=
  [("url", .text s.url), ("max_connections", .integer s.maxConnections.toNat),
    ("min_connections", .integer s.minConnections.toNat)]

def DatabaseSettings.layout : Layout DatabaseSettings where
  shape := shape
  values s := (s.url, (s.maxConnections.toNat : Int), (s.minConnections.toNat : Int), ())
  make found := ⟨found.1, UInt32.ofNat found.2.1.toNat, UInt32.ofNat found.2.2.1.toNat⟩
  nodup := by decide
  fit s := ⟨trivial, Json.fits_word32 s.maxConnections, Json.fits_word32 s.minConnections, trivial⟩
  make_values s := by simp
  values_make := by
    rintro ⟨url, most, least, ⟨⟩⟩ ⟨-, hmost, hleast, -⟩
    rw [Json.toNat_word32 hmost, Json.toNat_word32 hleast]

theorem DatabaseSettings.ofJson_eq (text : Bytes) :
    DatabaseSettings.ofJson text = DatabaseSettings.layout.read text := by
  show DatabaseSettings.ofJson text = (Json.readRecord DatabaseSettings.shape text).map _
  unfold DatabaseSettings.ofJson
  cases Json.readRecord DatabaseSettings.shape text <;> rfl

/-! ### Claims -/

def Claims.members (c : Claims) : List (String × Item) :=
  [("sub", .text c.subject), ("iat", .integer c.issuedAt.toInt),
    ("exp", .integer c.expiresAt.toInt)]

def Claims.layout : Layout Claims where
  shape := shape
  values c := (c.subject, c.issuedAt.toInt, c.expiresAt.toInt, ())
  make found := ⟨found.1, Int64.ofInt found.2.1, Int64.ofInt found.2.2.1⟩
  nodup := by decide
  fit c := ⟨trivial, Json.fits_signed64 c.issuedAt, Json.fits_signed64 c.expiresAt, trivial⟩
  make_values c := by simp
  values_make := by
    rintro ⟨subject, issuedAt, expiresAt, ⟨⟩⟩ ⟨-, hissued, hexpires, -⟩
    rw [Json.toInt_signed64 hissued, Json.toInt_signed64 hexpires]

theorem Claims.ofJson_eq (text : Bytes) : Claims.ofJson text = Claims.layout.read text := by
  show Claims.ofJson text = (Json.readRecord Claims.shape text).map _
  unfold Claims.ofJson
  cases Json.readRecord Claims.shape text <;> rfl

/-- **Settings and claims are read as they were written**, as lists in the order of their fields,
and as objects in any order and among other members; objects are refused in which a field is
missing, stands twice or is a number that its type does not have. -/
theorem settings_and_claims_mirrored :
    Mirrors ServiceSettings.shape ServiceSettings.members ServiceSettings.toJson
        ServiceSettings.ofJson ∧
      Mirrors DatabaseSettings.shape DatabaseSettings.members DatabaseSettings.toJson
        DatabaseSettings.ofJson ∧
      Mirrors Claims.shape Claims.members Claims.toJson Claims.ofJson := by
  refine ⟨?_, ?_, ?_⟩
  · exact ServiceSettings.layout.mirrors (fun _ => rfl) (fun _ => rfl) ServiceSettings.ofJson_eq
  · exact DatabaseSettings.layout.mirrors (fun _ => rfl) (fun _ => rfl) DatabaseSettings.ofJson_eq
  · exact Claims.layout.mirrors (fun _ => rfl) (fun _ => rfl) Claims.ofJson_eq

example : (Item.object (ServiceSettings.members ⟨"accounts", "::1", 80⟩)).toText =
    "\x7b\"service_name\":\"accounts\",\"host\":\"::1\",\"port\":80\x7d" := by
  decide

end UserAccounts
