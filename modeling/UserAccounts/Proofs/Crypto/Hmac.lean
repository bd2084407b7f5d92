/-
# What authenticates a message

A message is authenticated by two hashes, one inside the other: the key fills a
block, which goes in front of the message combined with one byte and in front of the
inner hash combined with another (`authentication`). `Key` keeps the states behind the
two blocks and hashes on from there; that comes to the same for every secret, short or
long (`authenticate_ofSecret`), since a block that is absorbed first is only counted in
the padding (`finish_absorb`).

Key definitions: `paddedKey`, `authentication`.
Key theorems: `Sha256.finish_absorb`, `authenticate_ofSecret`.
-/
import Mathlib.Data.List.GetD
import UserAccounts.Crypto.Hmac

namespace UserAccounts

/-! ### Hashing on behind a block -/

namespace Sha256

theorem absorb_append_block {block : Bytes} (h : block.length = 64) (s : State) (rest : Bytes) :
    absorb s (block ++ rest) = absorb (s.compress (wordsOfBytes block)) rest := by
  have hlong : 64 ≤ (block ++ rest).length := by
    rw [List.length_append]
    omega
  rw [absorb, if_pos hlong, List.take_left' h, List.drop_left' h]

theorem absorb_block {block : Bytes} (h : block.length = 64) (s : State) :
    absorb s block = s.compress (wordsOfBytes block) := by
  have happend := absorb_append_block h s []
  rw [List.append_nil] at happend
  rw [happend, absorb, if_neg (by decide)]

theorem finish_absorb {block : Bytes} (h : block.length = 64) (rest : Bytes) :
    finish (absorb .initial block) 64 rest = hash (block ++ rest) := by
  unfold hash finish
  rw [absorb_block h, List.append_assoc, absorb_append_block h, List.length_append, h,
    Nat.zero_add]

theorem length_hash (message : Bytes) : (hash message).length = 32 := rfl

end Sha256

namespace Hmac

/-! ### The two hashes -/

/-- The 64 bytes of a key: those of the secret, or of its hash if it is longer, and zeros. -/
def paddedKey (secret : Bytes) : Bytes :=
  (List.range 64).map ((if 64 < secret.length then Sha256.hash secret else secret).getD · 0)

/-- What authenticates a message: the hash behind the outer block of the hash behind the inner
block. -/
def authentication (secret message : Bytes) : Bytes :=
  Sha256.hash ((paddedKey secret).map (· ^^^ 0x5C) ++
    Sha256.hash ((paddedKey secret).map (· ^^^ 0x36) ++ message))

theorem length_paddedKey (secret : Bytes) : (paddedKey secret).length = 64 := by
  rw [paddedKey, List.length_map, List.length_range]

/-- Zeros behind a list are what is found there for want of something else. -/
theorem append_zeros (key : Bytes) {n : Nat} (h : key.length ≤ n) :
    key ++ List.replicate (n - key.length) 0 = (List.range n).map (key.getD · 0) := by
  refine List.ext_getElem ?_ fun i hi _ => ?_
  · rw [List.length_append, List.length_replicate, List.length_map, List.length_range]
    omega
  · rw [List.getElem_map, List.getElem_range]
    by_cases hin : i < key.length
    · rw [List.getElem_append_left hin, List.getD_eq_getElem key 0 hin]
    · rw [List.getElem_append_right (Nat.le_of_not_lt hin), List.getElem_replicate,
        List.getD_eq_default key 0 (Nat.le_of_not_lt hin)]

theorem keyBlock_eq (secret : Bytes) : keyBlock secret = paddedKey secret := by
  refine append_zeros _ ?_
  split
  · rw [Sha256.length_hash]
    decide
  · exact Nat.le_of_not_lt ‹_›

/-- **A message is authenticated by the two hashes**, whatever the secret. -/
theorem authenticate_ofSecret (secret message : Bytes) :
    (Key.ofSecret secret).authenticate message = authentication secret message := by
  have hlength : ∀ mask : UInt8, ((paddedKey secret).map (· ^^^ mask)).length = 64 := by
    intro mask
    rw [List.length_map, length_paddedKey]
  unfold Key.authenticate Key.ofSecret authentication
  simp only [keyBlock_eq]
  rw [Sha256.finish_absorb (hlength _), Sha256.finish_absorb (hlength _)]

end Hmac

end UserAccounts
