/-
# Stored hashes

The text in which a password hash is stored: fields behind dollar signs, namely
the algorithm, perhaps its version (`v=19`), perhaps parameters (`m=8,t=1,p=1`),
the salt and the digest, the last two in base 64. Salt and digest may be missing.
`StoredHash.read` reads such a text; `StoredHash.matchesPassword` hashes a password in
the same manner and compares the outcome.

Key definitions: `StoredHash`, `StoredHash.read`, `StoredHash.toText`,
`StoredHash.recompute`, `HashFault`.
-/
import UserAccounts.Crypto.Argon2
import UserAccounts.Text.Base64
import UserAccounts.Text.Digits

namespace UserAccounts

inductive ValueFault where
  | tooShort
  | tooLong
  | malformed
  | badFormat
  | badCharacter (c : Char)
deriving DecidableEq, Repr

/-- The words for a fault in a value; a bad character stands in them as it is. -/
def ValueFault.message : ValueFault → String
  | .tooShort => "value to short"
  | .tooLong => "value to long"
  | .malformed => "value malformed"
  | .badFormat => "value format is invalid"
  | .badCharacter c => "contains invalid character: '" ++ String.ofList [c, '\'']

/-- Why a text is no stored hash, or one that no password can be compared with. -/
inductive HashFault where
  | missingField
  | trailing
  | badName
  | badParameter (fault : ValueFault)
  | badSalt (fault : ValueFault)
  | tooManyParameters
  | base64Length
  | base64Encoding
  | digestTooShort
  | unknownAlgorithm
  | unknownVersion
deriving DecidableEq, Repr

def leastDigest : Nat := 10

def HashFault.message : HashFault → String
  | .missingField => "password hash string missing field"
  | .trailing => "password hash string contains trailing characters"
  | .badName => "invalid parameter name"
  | .badParameter fault => s!"invalid parameter value: {fault.message}"
  | .badSalt fault => s!"salt invalid: {fault.message}"
  | .tooManyParameters => "maximum number of parameters reached"
  | .base64Length => "invalid Base64 length"
  | .base64Encoding => "invalid Base64 encoding"
  | .digestTooShort => s!"output size too short, expected at least {leastDigest} bytes"
  | .unknownAlgorithm => "unsupported algorithm"
  | .unknownVersion => "invalid algorithm version"

structure StoredHash where
  algorithm : List Char
  version : Option Nat := none
  parameters : List (List Char × List Char) := []
  salt : Option (List Char) := none
  digest : Option Bytes := none
deriving DecidableEq, Repr

namespace StoredHash

/-! ### Reading -/

def byteLength (cs : List Char) : Nat :=
  (cs.map Char.utf8Size).foldr (· + ·) 0

/-- A name has 1 to 32 lower-case letters, digits and hyphens. -/
def readName (cs : List Char) : Except HashFault (List Char) :=
  if 1 ≤ byteLength cs && byteLength cs ≤ 32 &&
      cs.all (fun c => ('a' ≤ c && c ≤ 'z') || c.isDigit || c == '-') then .ok cs
  else .error .badName

def isValueChar (c : Char) : Bool :=
  c.isAlphanum || c == '/' || c == '+' || c == '.' || c == '-'

/-- A value has at most 64 bytes. -/
def readValue (cs : List Char) : Except ValueFault (List Char) :=
  if 64 < byteLength cs then .error .tooLong
  else
    match cs.find? (!isValueChar ·) with
    | some c => .error (.badCharacter c)
    | none => .ok cs

/-- A number below 2³², without leading zeros. -/
def readNumber (cs : List Char) : Except ValueFault Nat :=
  if cs.isEmpty then .error .malformed
  else
    match cs.find? (!·.isDigit) with
    | some c => .error (.badCharacter c)
    | none =>
      if cs.head? == some '0' && 1 < cs.length then .error .badFormat
      else
        match Text.readNatural (UInt32.size - 1) cs with
        | .ok n => .ok n
        | .error _ => .error .badFormat

def readParameter (cs : List Char) : Except HashFault (List Char × List Char) :=
  match cs.splitOn '=' with
  | [] => .error .badName
  | name :: rest => do
    let name ← readName name
    match rest with
    | [] => .error (.badParameter .malformed)
    | value :: more =>
      let value ← (readValue value).mapError .badParameter
      if more.isEmpty then .ok (name, value) else .error (.badParameter .malformed)

/-- Parameters with commas between them, in at most 127 bytes. -/
def readParameters (cs : List Char) : Except HashFault (List (List Char × List Char)) :=
  if 127 < byteLength cs then .error .tooManyParameters
  else (cs.splitOn ',').mapM readParameter

/-- A salt, still in base 64; it has 4 to 64 bytes. -/
def readSalt (cs : List Char) : Except HashFault (List Char) :=
  if byteLength cs < 4 then .error (.badSalt .tooShort)
  else (readValue cs).mapError .badSalt

/-- The at most `most` bytes that a text in base 64 spells. -/
def readBase64 (most : Nat) (cs : List Char) : Except HashFault Bytes :=
  if most < Base64.decodedLength (byteLength cs) then .error .base64Length
  else
    match Base64.decode Base64.plain cs with
    | some bytes => .ok bytes
    | none => .error .base64Encoding

/-- A digest of 10 to 64 bytes. -/
def readDigest (cs : List Char) : Except HashFault Bytes := do
  let bytes ← readBase64 64 cs
  if bytes.length < leastDigest then .error .digestTooShort else .ok bytes

/-- Reads the first field by a reader that may have no use for it. -/
def optional {α : Type} (wanted : List Char → Bool) (read : List Char → Except HashFault α) :
    List (List Char) → Except HashFault (Option α × List (List Char))
  | [] => .ok (none, [])
  | field :: fields =>
    if wanted field then (read field).map fun a => (some a, fields)
    else .ok (none, field :: fields)

def readVersion (cs : List Char) : Except HashFault Nat :=
  ((readValue (cs.drop 2)).bind readNumber).mapError .badParameter

def read (cs : List Char) : Except HashFault StoredHash := do
  match cs.splitOn '$' with
  | [] :: algorithm :: fields =>
    let algorithm ← readName algorithm
    let (version, fields) ←
      optional (fun f => ['v', '='].isPrefixOf f && !f.contains ',') readVersion fields
    let (parameters, fields) ← optional (·.contains '=') readParameters fields
    let (salt, fields) ← optional (fun _ => true) readSalt fields
    let (digest, fields) ← optional (fun _ => true) readDigest fields
    if fields.isEmpty then
      .ok { algorithm, version, parameters := parameters.getD [], salt, digest }
    else .error .trailing
  | _ => .error .missingField

/-! ### Writing -/

def parameterText (p : List Char × List Char) : List Char :=
  p.1 ++ '=' :: p.2

def textChars (h : StoredHash) : List Char :=
  '$' :: h.algorithm ++
    (match h.version with
      | some n => '$' :: 'v' :: '=' :: Text.decimal n
      | none => []) ++
    (if h.parameters.isEmpty then []
      else '$' :: [','].intercalate (h.parameters.map parameterText)) ++
    (match h.salt with
      | some salt => '$' :: salt
      | none => []) ++
    (match h.digest with
      | some digest => '$' :: Base64.encode Base64.plain digest
      | none => [])

def toText (h : StoredHash) : String :=
  String.ofList h.textChars

/-! ### Hashing in the same manner -/

def standardCost : Argon2.Parameters := { memory := 19456, passes := 2, lanes := 1 }

/-- Takes one parameter into account; a key's name, of at most 8 bytes, changes nothing. -/
def setParameter (cost : Argon2.Parameters) (p : List Char × List Char) :
    Except HashFault Argon2.Parameters :=
  let number := (readNumber p.2).mapError .badParameter
  if p.1 = ['m'] then number.map fun n => { cost with memory := n }
  else if p.1 = ['t'] then number.map fun n => { cost with passes := n }
  else if p.1 = ['p'] then number.map fun n => { cost with lanes := n }
  else if p.1 = "keyid".toList then (readBase64 8 p.2).map fun _ => cost
  else if p.1 = "data".toList then (readBase64 32 p.2).map fun b => { cost with associated := b }
  else .error .badName

/-- Whether a hash can be made at this cost. There are at least eight blocks, and eight for each
lane, where the number of lanes is taken as 32 bits. -/
def checkCost (cost : Argon2.Parameters) : Except HashFault Argon2.Parameters :=
  if cost.memory < 8 || cost.memory < cost.lanes * 8 % UInt32.size || cost.passes < 1 ||
      cost.lanes < 1 then
    .error (.badParameter .tooShort)
  else if Nat.pow 2 24 ≤ cost.lanes then .error (.badParameter .tooLong)
  else .ok cost

def cost (h : StoredHash) : Except HashFault Argon2.Parameters := do
  checkCost (← h.parameters.foldlM setParameter standardCost)

def variant (h : StoredHash) : Except HashFault Argon2.Variant :=
  if h.algorithm = "argon2d".toList then .ok .d
  else if h.algorithm = "argon2i".toList then .ok .i
  else if h.algorithm = "argon2id".toList then .ok .id
  else .error .unknownAlgorithm

/-- The version of the algorithm; the newer one, if nothing is said. -/
def algorithmVersion (h : StoredHash) : Except HashFault Argon2.Version :=
  match h.version with
  | none => .ok .v19
  | some n =>
    if n = Argon2.Version.code .v16 then .ok .v16
    else if n = Argon2.Version.code .v19 then .ok .v19
    else .error .unknownVersion

/-- The greatest number of bytes of a password that can be hashed. -/
def mostPassword : Nat := UInt32.size - 1

/-- The digest of a password, made as the stored hash was, with its salt and as many bytes; a
password that is too long has none. -/
def recompute (h : StoredHash) (salt : List Char) (size : Nat) (password : Bytes) :
    Except HashFault (Option Bytes) := do
  let cost ← h.cost
  let variant ← h.variant
  let version ← h.algorithmVersion
  let salt ← readBase64 64 salt
  if mostPassword < password.length then .ok none
  else if salt.length < 8 then .error (.badSalt .tooShort)
  else .ok (some (Argon2.hash variant version cost password salt size))

/-- Whether a password has this hash; without salt or digest, none has. -/
def matchesPassword (h : StoredHash) (password : Bytes) : Except HashFault Bool :=
  match h.salt, h.digest with
  | some salt, some digest => (h.recompute salt digest.length password).map (· == some digest)
  | _, _ => .ok false

/-- The hash of a password under a salt, at the standard cost, with 32 bytes. -/
def ofPassword (password salt : Bytes) : StoredHash :=
  { algorithm := "argon2id".toList
    version := some (Argon2.Version.code .v19)
    parameters := [(['m'], Text.decimal standardCost.memory),
      (['t'], Text.decimal standardCost.passes), (['p'], Text.decimal standardCost.lanes)]
    salt := some (Base64.encode Base64.plain salt)
    digest := some (Argon2.hash .id .v19 standardCost password salt 32) }

end StoredHash

end UserAccounts
