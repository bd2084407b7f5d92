/-
# Stored hashes are read as they are written

A stored hash holds all that it takes to make it again: how it was made, what it cost,
its salt and its digest. This is of use only if all of it survives being written and
read. The fields stand behind dollar signs, and no field has a dollar sign in it, so
the text falls apart into the fields again (`splitOn_textChars`); each is read by a
reader of its own, salt and digest for any bytes, as long as they are not too few or
too many (`read_filled`).

What is read is the stored hash that was written, so a password is hashed with the same
salt, at the same cost, to as many bytes, and the outcome is compared with the digest
that was stored (`matchesPassword_filled`).

Key definitions: `StoredHash.filled`, `StoredHash.fields`.
Key theorems: `Argon2.length_hash`, `StoredHash.splitOn_textChars`,
`StoredHash.read_filled`, `StoredHash.matchesPassword_filled`.
-/
import UserAccounts.Crypto.StoredHash
import UserAccounts.Proofs.Text.Base64

namespace UserAccounts

/-! ### Digests -/

theorem Blake2b.length_toBytes (s : Blake2b.State) : s.toBytes.length = 64 := rfl

theorem Blake2b.length_hash {size : Nat} (h : size ≤ 64) (message : Bytes) :
    (Blake2b.hash size message).length = size := by
  unfold Blake2b.hash
  rw [List.length_take, length_toBytes]
  omega

theorem Argon2.length_hash {size : Nat} (h : size ≤ 64) (variant : Argon2.Variant)
    (version : Argon2.Version) (p : Argon2.Parameters) (password salt : Bytes) :
    (Argon2.hash variant version p password salt size).length = size := by
  unfold Argon2.hash Argon2.longHash
  simp only
  rw [if_pos h, Blake2b.length_hash h]

namespace StoredHash

/-! ### Digits of salts and digests -/

/-- A digit may stand in a value, is one byte, and is no dollar sign. -/
theorem plain_digit_facts {n : Nat} (h : n < 64) :
    isValueChar (Base64.plain.digit n) = true ∧ (Base64.plain.digit n).utf8Size = 1 ∧
      Base64.plain.digit n ≠ '$' := by
  revert n
  decide

section

variable {bytes : Bytes}

theorem byteLength_of_ascii {cs : List Char} (h : ∀ c ∈ cs, c.utf8Size = 1) :
    byteLength cs = cs.length := by
  induction cs with
  | nil => rfl
  | cons c cs ih =>
    obtain ⟨hc, hcs⟩ := List.forall_mem_cons.mp h
    show c.utf8Size + byteLength cs = cs.length + 1
    rw [hc, ih hcs]
    omega

theorem byteLength_encode (bytes : Bytes) :
    byteLength (Base64.encode Base64.plain bytes) = (4 * bytes.length + 2) / 3 := by
  rw [byteLength_of_ascii, Base64.length_encode]
  intro c hc
  obtain ⟨n, hn, rfl⟩ := Base64.exists_digit_of_mem_encode hc
  exact (plain_digit_facts hn).2.1

theorem dollar_notMem_encode (bytes : Bytes) : '$' ∉ Base64.encode Base64.plain bytes := by
  intro hmem
  obtain ⟨n, hn, he⟩ := Base64.exists_digit_of_mem_encode hmem
  exact (plain_digit_facts hn).2.2 he.symm

theorem readValue_encode (h : bytes.length ≤ 48) :
    readValue (Base64.encode Base64.plain bytes) = .ok (Base64.encode Base64.plain bytes) := by
  have hgood : (Base64.encode Base64.plain bytes).find? (!isValueChar ·) = none := by
    rw [List.find?_eq_none]
    intro c hc
    obtain ⟨n, hn, rfl⟩ := Base64.exists_digit_of_mem_encode hc
    simp [(plain_digit_facts hn).1]
  unfold readValue
  rw [byteLength_encode, if_neg (by omega), hgood]

theorem readSalt_encode (hleast : 3 ≤ bytes.length) (hmost : bytes.length ≤ 48) :
    readSalt (Base64.encode Base64.plain bytes) = .ok (Base64.encode Base64.plain bytes) := by
  unfold readSalt
  rw [byteLength_encode, if_neg (by omega), readValue_encode hmost]
  rfl

/-- So many bytes are read of their digits, and the digits are not thought to be more. -/
theorem readBase64_encode {most : Nat} (h : bytes.length ≤ most) :
    readBase64 most (Base64.encode Base64.plain bytes) = .ok bytes := by
  have hlength : Base64.decodedLength ((4 * bytes.length + 2) / 3) ≤ most := by
    unfold Base64.decodedLength
    omega
  unfold readBase64
  rw [byteLength_encode, if_neg (Nat.not_lt.mpr hlength),
    Base64.decode_encode Base64.plain_legible]

theorem readDigest_encode (hleast : leastDigest ≤ bytes.length) (hmost : bytes.length ≤ 64) :
    readDigest (Base64.encode Base64.plain bytes) = .ok bytes := by
  unfold readDigest
  rw [readBase64_encode hmost]
  exact if_neg (Nat.not_lt.mpr hleast)

end

/-! ### Whole texts -/

/-- The parameters that name the standard cost. -/
def standardParameters : List (List Char × List Char) :=
  [(['m'], "19456".toList), (['t'], "2".toList), (['p'], "1".toList)]

/-- The stored hash with this salt and this digest, made in the present manner at the standard
cost. -/
def filled (salt digest : Bytes) : StoredHash where
  algorithm := "argon2id".toList
  version := some 19
  parameters := standardParameters
  salt := some (Base64.encode Base64.plain salt)
  digest := some digest

theorem ofPassword_eq_filled (password salt : Bytes) :
    ofPassword password salt =
      filled salt (Argon2.hash .id .v19 standardCost password salt 32) := rfl

/-- What stands between the dollar signs. -/
def fields (salt digest : Bytes) : List (List Char) :=
  ["argon2id".toList, "v=19".toList, "m=19456,t=2,p=1".toList, Base64.encode Base64.plain salt,
    Base64.encode Base64.plain digest]

section

variable {salt digest : Bytes}

theorem textChars_filled (salt digest : Bytes) :
    (filled salt digest).textChars =
      "$argon2id$v=19$m=19456,t=2,p=1$".toList ++ Base64.encode Base64.plain salt ++
        '$' :: Base64.encode Base64.plain digest := by
  have hhead : '$' :: "argon2id".toList ++ '$' :: 'v' :: '=' :: Text.decimal 19 ++
      '$' :: [','].intercalate (standardParameters.map parameterText) ++ ['$'] =
      "$argon2id$v=19$m=19456,t=2,p=1$".toList := by decide
  show '$' :: "argon2id".toList ++ '$' :: 'v' :: '=' :: Text.decimal 19 ++
    '$' :: [','].intercalate (standardParameters.map parameterText) ++
    '$' :: Base64.encode Base64.plain salt ++ '$' :: Base64.encode Base64.plain digest = _
  rw [← hhead, List.append_assoc _ ['$']]
  rfl

theorem splitOn_textChars (salt digest : Bytes) :
    (filled salt digest).textChars.splitOn '$' = [] :: fields salt digest := by
  have hjoined : (filled salt digest).textChars = ['$'].intercalate ([] :: fields salt digest) := by
    rw [textChars_filled]
    simp [fields, List.intercalate, List.intersperse]
  have hdollars : ∀ field ∈ [] :: fields salt digest, '$' ∉ field := by
    simp only [fields, List.forall_mem_cons]
    exact ⟨by decide, by decide, by decide, by decide, dollar_notMem_encode salt,
      dollar_notMem_encode digest, by simp⟩
  rw [hjoined]
  exact List.splitOn_intercalate '$' hdollars (List.cons_ne_nil _ _)

/-- **A stored hash is read as it was written**, whatever its salt and its digest. -/
theorem read_filled (hsalt : 3 ≤ salt.length ∧ salt.length ≤ 48)
    (hdigest : leastDigest ≤ digest.length ∧ digest.length ≤ 64) :
    read (filled salt digest).textChars = .ok (filled salt digest) := by
  have hname : readName "argon2id".toList = .ok "argon2id".toList := rfl
  have hversion : ∀ rest, optional (fun f => ['v', '='].isPrefixOf f && !f.contains ',') readVersion
      ("v=19".toList :: rest) = .ok (some 19, rest) := fun _ => rfl
  have hparameters : ∀ rest, optional (·.contains '=') readParameters
      ("m=19456,t=2,p=1".toList :: rest) =
        .ok (some standardParameters, rest) := fun _ => rfl
  have hwanted : ∀ {α : Type} (read : List Char → Except HashFault α) (field : List Char)
      (value : α) rest, read field = .ok value →
        optional (fun _ => true) read (field :: rest) = .ok (some value, rest) := by
    intro α read field value rest h
    show (read field).map (fun a => (some a, rest)) = _
    rw [h]
    rfl
  unfold read
  rw [splitOn_textChars]
  simp only [fields, hname, hversion, hparameters,
    hwanted readSalt _ _ _ (readSalt_encode hsalt.1 hsalt.2),
    hwanted readDigest _ _ _ (readDigest_encode hdigest.1 hdigest.2), bind, Except.bind]
  rfl

/-! ### Hashing in the same manner -/

theorem cost_filled (salt digest : Bytes) : (filled salt digest).cost = .ok standardCost := rfl

theorem recompute_filled (hsalt : 8 ≤ salt.length ∧ salt.length ≤ 64) (digest : Bytes) (size : Nat)
    (password : Bytes) :
    (filled salt digest).recompute (Base64.encode Base64.plain salt) size password =
      .ok (if mostPassword < password.length then none
        else some (Argon2.hash .id .v19 standardCost password salt size)) := by
  have hvariant : (filled salt digest).variant = .ok .id := rfl
  have hversion : (filled salt digest).algorithmVersion = .ok .v19 := rfl
  unfold recompute
  simp only [cost_filled, hvariant, hversion, readBase64_encode hsalt.2, bind, Except.bind]
  by_cases hlong : mostPassword < password.length
  · rw [if_pos hlong, if_pos hlong]
  · rw [if_neg hlong, if_neg hlong, if_neg (by omega)]

/-- **A password is compared through its digest**: it has the stored hash exactly if hashing it with
the same salt comes to the same digest. -/
theorem matchesPassword_filled (hsalt : 8 ≤ salt.length ∧ salt.length ≤ 64) (digest : Bytes)
    (password : Bytes) :
    (filled salt digest).matchesPassword password =
      .ok (decide (password.length ≤ mostPassword ∧
        Argon2.hash .id .v19 standardCost password salt digest.length = digest)) := by
  show ((filled salt digest).recompute (Base64.encode Base64.plain salt) digest.length
    password).map (· == some digest) = _
  rw [recompute_filled hsalt]
  by_cases hlong : mostPassword < password.length
  · rw [if_pos hlong, decide_eq_false fun h => Nat.not_lt.mpr h.1 hlong]
    rfl
  · have hshort : password.length ≤ mostPassword := Nat.not_lt.mp hlong
    rw [if_neg hlong]
    generalize Argon2.hash .id .v19 standardCost password salt digest.length = made
    have hsame : (some made == some digest) = decide (made = digest) := by
      rw [Option.some_beq_some, Bool.eq_iff_iff, beq_iff_eq, decide_eq_true_iff]
    show Except.ok (some made == some digest) = _
    rw [hsame]
    simp only [hshort, true_and]

end

end StoredHash

end UserAccounts
