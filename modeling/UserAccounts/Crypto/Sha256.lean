/-
# SHA-256

A message is padded to whole blocks of 64 bytes, and each block is folded into a
state of eight words. The message is followed by a one bit, zero bits, and its
length in bits as eight bytes. A block's sixteen words are drawn out to 64, one
for each round.

`finish` ends a hash of which some blocks are in the state already; `hash` starts
from nothing.

Key definitions: `State`, `absorb`, `finish`, `hash`.
-/
import UserAccounts.Text.Utf8

namespace UserAccounts.Sha256

structure State where
  a : UInt32
  b : UInt32
  c : UInt32
  d : UInt32
  e : UInt32
  f : UInt32
  g : UInt32
  h : UInt32
deriving DecidableEq, Repr

def State.initial : State :=
  ⟨0x6a09e667, 0xbb67ae85, 0x3c6ef372, 0xa54ff53a, 0x510e527f, 0x9b05688c, 0x1f83d9ab, 0x5be0cd19⟩

def State.add (s t : State) : State :=
  ⟨s.a + t.a, s.b + t.b, s.c + t.c, s.d + t.d, s.e + t.e, s.f + t.f, s.g + t.g, s.h + t.h⟩

def roundConstants : List UInt32 :=
  [0x428a2f98, 0x71374491, 0xb5c0fbcf, 0xe9b5dba5, 0x3956c25b, 0x59f111f1, 0x923f82a4, 0xab1c5ed5,
    0xd807aa98, 0x12835b01, 0x243185be, 0x550c7dc3, 0x72be5d74, 0x80deb1fe, 0x9bdc06a7, 0xc19bf174,
    0xe49b69c1, 0xefbe4786, 0x0fc19dc6, 0x240ca1cc, 0x2de92c6f, 0x4a7484aa, 0x5cb0a9dc, 0x76f988da,
    0x983e5152, 0xa831c66d, 0xb00327c8, 0xbf597fc7, 0xc6e00bf3, 0xd5a79147, 0x06ca6351, 0x14292967,
    0x27b70a85, 0x2e1b2138, 0x4d2c6dfc, 0x53380d13, 0x650a7354, 0x766a0abb, 0x81c2c92e, 0x92722c85,
    0xa2bfe8a1, 0xa81a664b, 0xc24b8b70, 0xc76c51a3, 0xd192e819, 0xd6990624, 0xf40e3585, 0x106aa070,
    0x19a4c116, 0x1e376c08, 0x2748774c, 0x34b0bcb5, 0x391c0cb3, 0x4ed8aa4a, 0x5b9cca4f, 0x682e6ff3,
    0x748f82ee, 0x78a5636f, 0x84c87814, 0x8cc70208, 0x90befffa, 0xa4506ceb, 0xbef9a3f7, 0xc67178f2]

/-- The word turned right by `n` bits, where `n` is from 1 to 31. -/
def rotateRight (x n : UInt32) : UInt32 :=
  (x >>> n) ||| (x <<< (32 - n))

/-- The word that follows sixteen words of the schedule. -/
def nextWord (window : List UInt32) : UInt32 :=
  let word (i : Nat) := window.getD i 0
  let small0 := rotateRight (word 1) 7 ^^^ rotateRight (word 1) 18 ^^^ (word 1 >>> 3)
  let small1 := rotateRight (word 14) 17 ^^^ rotateRight (word 14) 19 ^^^ (word 14 >>> 10)
  word 0 + small0 + word 9 + small1

def State.round (s : State) (constant word : UInt32) : State :=
  let big1 := rotateRight s.e 6 ^^^ rotateRight s.e 11 ^^^ rotateRight s.e 25
  let choice := (s.e &&& s.f) ^^^ (~~~s.e &&& s.g)
  let first := s.h + big1 + choice + constant + word
  let big0 := rotateRight s.a 2 ^^^ rotateRight s.a 13 ^^^ rotateRight s.a 22
  let majority := (s.a &&& s.b) ^^^ (s.a &&& s.c) ^^^ (s.b &&& s.c)
  ⟨first + (big0 + majority), s.a, s.b, s.c, s.d + first, s.e, s.f, s.g⟩

/-- The rounds for some constants; `window` holds the next sixteen words of the schedule. -/
def rounds : List UInt32 → List UInt32 → State → State
  | [], _, s => s
  | constant :: constants, window, s =>
    rounds constants (window.tail ++ [nextWord window]) (s.round constant (window.headD 0))

def State.compress (s : State) (block : List UInt32) : State :=
  s.add (rounds roundConstants block s)

/-- The words of four bytes each, first byte highest; bytes left over are dropped. -/
def wordsOfBytes : Bytes → List UInt32
  | x :: y :: z :: w :: rest =>
    (x.toUInt32 <<< 24 ||| y.toUInt32 <<< 16 ||| z.toUInt32 <<< 8 ||| w.toUInt32) ::
      wordsOfBytes rest
  | _ => []

/-- Folds the whole blocks of a message into the state; bytes left over are dropped. -/
def absorb (s : State) (message : Bytes) : State :=
  if 64 ≤ message.length then
    absorb (s.compress (wordsOfBytes (message.take 64))) (message.drop 64)
  else s
termination_by message.length
decreasing_by rw [List.length_drop]; omega

/-- The `count` low bytes of a number, highest first. -/
def bigEndian (count n : Nat) : Bytes :=
  (List.range count).map fun i => UInt8.ofNat (n / Nat.pow 256 (count - 1 - i))

/-- What follows a message of `length` bytes. -/
def padding (length : Nat) : Bytes :=
  0x80 :: List.replicate ((119 - length % 64) % 64) 0 ++ bigEndian 8 (length * 8)

def State.toBytes (s : State) : Bytes :=
  [s.a, s.b, s.c, s.d, s.e, s.f, s.g, s.h].flatMap fun word => bigEndian 4 word.toNat

/-- Ends the hash of a message of which `absorbed` bytes, in whole blocks, are in the state, and
`rest` follows. -/
def finish (s : State) (absorbed : Nat) (rest : Bytes) : Bytes :=
  (absorb s (rest ++ padding (absorbed + rest.length))).toBytes

def hash (message : Bytes) : Bytes :=
  finish State.initial 0 message

end UserAccounts.Sha256
