/-
# BLAKE2b

A hash of 1 to 64 bytes, without a key. Blocks of 128 bytes are folded into a
state of eight words; the last block is filled with zeros and marked. The working
area has sixteen words, seen as four columns of four: a round mixes the columns
and then the diagonals, with two words of the message each time.

Key definitions: `Quad`, `Square`, `Square.round`, `hash`.
-/
import UserAccounts.Text.Utf8

namespace UserAccounts.Blake2b

structure Quad where
  a : UInt64
  b : UInt64
  c : UInt64
  d : UInt64
deriving DecidableEq, Repr

/-- The word turned right by `n` bits, where `n` is from 1 to 63. -/
@[inline] def rotateRight (x n : UInt64) : UInt64 :=
  (x >>> n) ||| (x <<< (64 - n))

def Quad.mix (q : Quad) (x y : UInt64) : Quad :=
  let a := q.a + q.b + x
  let d := rotateRight (q.d ^^^ a) 32
  let c := q.c + d
  let b := rotateRight (q.b ^^^ c) 24
  let a := a + b + y
  let d := rotateRight (d ^^^ a) 16
  let c := c + d
  let b := rotateRight (b ^^^ c) 63
  ⟨a, b, c, d⟩

/-- Sixteen words as four columns. -/
structure Square where
  first : Quad
  second : Quad
  third : Quad
  fourth : Quad
deriving DecidableEq, Repr

/-- Turns the diagonals into columns. -/
def Square.skew (s : Square) : Square :=
  ⟨⟨s.first.a, s.second.b, s.third.c, s.fourth.d⟩, ⟨s.second.a, s.third.b, s.fourth.c, s.first.d⟩,
    ⟨s.third.a, s.fourth.b, s.first.c, s.second.d⟩, ⟨s.fourth.a, s.first.b, s.second.c, s.third.d⟩⟩

/-- Turns the columns back into diagonals. -/
def Square.unskew (s : Square) : Square :=
  ⟨⟨s.first.a, s.fourth.b, s.third.c, s.second.d⟩, ⟨s.second.a, s.first.b, s.fourth.c, s.third.d⟩,
    ⟨s.third.a, s.second.b, s.first.c, s.fourth.d⟩, ⟨s.fourth.a, s.third.b, s.second.c, s.first.d⟩⟩

/-- The order in which a round takes the words of the message; it starts over after ten rounds. -/
def orders : List (List Nat) :=
  [[0, 1, 2, 3, 4, 5, 6, 7, 8, 9, 10, 11, 12, 13, 14, 15],
    [14, 10, 4, 8, 9, 15, 13, 6, 1, 12, 0, 2, 11, 7, 5, 3],
    [11, 8, 12, 0, 5, 2, 15, 13, 10, 14, 3, 6, 7, 1, 9, 4],
    [7, 9, 3, 1, 13, 12, 11, 14, 2, 6, 5, 10, 4, 0, 15, 8],
    [9, 0, 5, 7, 2, 4, 10, 15, 14, 1, 11, 12, 6, 8, 3, 13],
    [2, 12, 6, 10, 0, 11, 8, 3, 4, 13, 7, 5, 15, 14, 1, 9],
    [12, 5, 1, 15, 14, 13, 4, 10, 0, 7, 6, 3, 9, 2, 8, 11],
    [13, 11, 7, 14, 12, 1, 3, 9, 5, 0, 15, 4, 8, 6, 2, 10],
    [6, 15, 14, 9, 11, 3, 0, 8, 12, 2, 13, 7, 1, 4, 10, 5],
    [10, 2, 8, 4, 7, 6, 1, 5, 15, 11, 9, 14, 3, 12, 13, 0],
    [0, 1, 2, 3, 4, 5, 6, 7, 8, 9, 10, 11, 12, 13, 14, 15],
    [14, 10, 4, 8, 9, 15, 13, 6, 1, 12, 0, 2, 11, 7, 5, 3]]

/-- One round over the message `words`, taken in the given order. -/
def Square.round (words : Array UInt64) (s : Square) (order : List Nat) : Square :=
  let word (i : Nat) := words.getD (order.getD i 0) 0
  let s : Square := ⟨s.first.mix (word 0) (word 1), s.second.mix (word 2) (word 3),
    s.third.mix (word 4) (word 5), s.fourth.mix (word 6) (word 7)⟩
  let s := s.skew
  let s : Square := ⟨s.first.mix (word 8) (word 9), s.second.mix (word 10) (word 11),
    s.third.mix (word 12) (word 13), s.fourth.mix (word 14) (word 15)⟩
  s.unskew

structure State where
  upper : Quad
  lower : Quad
deriving DecidableEq, Repr

def startWords : State :=
  ⟨⟨0x6a09e667f3bcc908, 0xbb67ae8584caa73b, 0x3c6ef372fe94f82b, 0xa54ff53a5f1d36f1⟩,
    ⟨0x510e527fade682d1, 0x9b05688c2b3e6c1f, 0x1f83d9abfb41bd6b, 0x5be0cd19137e2179⟩⟩

def State.initial (size : Nat) : State :=
  { startWords with
    upper := { startWords.upper with
      a := startWords.upper.a ^^^ 0x01010000 ^^^ UInt64.ofNat size } }

/-- The words of eight bytes each, first byte lowest; bytes left over are dropped. -/
def wordsOfBytes : Bytes → List UInt64
  | a :: b :: c :: d :: e :: f :: g :: h :: rest =>
    (a.toUInt64 ||| b.toUInt64 <<< 8 ||| c.toUInt64 <<< 16 ||| d.toUInt64 <<< 24 |||
      e.toUInt64 <<< 32 ||| f.toUInt64 <<< 40 ||| g.toUInt64 <<< 48 ||| h.toUInt64 <<< 56) ::
      wordsOfBytes rest
  | _ => []

/-- The bytes of a word, lowest first. -/
def bytesOfWord (w : UInt64) : Bytes :=
  [w.toUInt8, (w >>> 8).toUInt8, (w >>> 16).toUInt8, (w >>> 24).toUInt8,
    (w >>> 32).toUInt8, (w >>> 40).toUInt8, (w >>> 48).toUInt8, (w >>> 56).toUInt8]

/-- Folds a block of 128 bytes into the state; `count` bytes of the message end with it. -/
def State.compress (s : State) (block : Bytes) (count : Nat) (last : Bool) : State :=
  let words := (wordsOfBytes block).toArray
  let u := s.upper
  let l := s.lower
  let i := startWords.upper
  let j := startWords.lower
  let start : Square :=
    ⟨⟨u.a, l.a, i.a, j.a ^^^ UInt64.ofNat count⟩,
      ⟨u.b, l.b, i.b, j.b ^^^ UInt64.ofNat (count / UInt64.size)⟩,
      ⟨u.c, l.c, i.c, if last then ~~~j.c else j.c⟩,
      ⟨u.d, l.d, i.d, j.d⟩⟩
  let t := orders.foldl (Square.round words) start
  ⟨⟨u.a ^^^ t.first.a ^^^ t.first.c, u.b ^^^ t.second.a ^^^ t.second.c,
      u.c ^^^ t.third.a ^^^ t.third.c, u.d ^^^ t.fourth.a ^^^ t.fourth.c⟩,
    ⟨l.a ^^^ t.first.b ^^^ t.first.d, l.b ^^^ t.second.b ^^^ t.second.d,
      l.c ^^^ t.third.b ^^^ t.third.d, l.d ^^^ t.fourth.b ^^^ t.fourth.d⟩⟩

/-- Folds a message into the state, `done` bytes of which are in it already. -/
def absorb (s : State) (done : Nat) (message : Bytes) : State :=
  if 128 < message.length then
    absorb (s.compress (message.take 128) (done + 128) false) (done + 128) (message.drop 128)
  else
    s.compress (message ++ List.replicate (128 - message.length) 0) (done + message.length) true
termination_by message.length
decreasing_by rw [List.length_drop]; omega

def State.toBytes (s : State) : Bytes :=
  [s.upper.a, s.upper.b, s.upper.c, s.upper.d, s.lower.a, s.lower.b, s.lower.c,
    s.lower.d].flatMap bytesOfWord

def hash (size : Nat) (message : Bytes) : Bytes :=
  (absorb (State.initial size) 0 message).toBytes.take size

end UserAccounts.Blake2b
