/-
# Argon2

A hash of a password and a salt that takes much memory: a number of lanes, each a
row of blocks of 1024 bytes, and each lane in four segments. A block is made from
the one before it in its lane and from another block, which the first word of the
block before it picks, or, where the choice is not to depend on the password, a
sequence of address blocks. The lanes are filled segment by segment, once for
each pass; the last blocks of the lanes together give the outcome.

Key definitions: `Parameters`, `Block.compress`, `referenceIndex`, `fill`, `hash`.
-/
import UserAccounts.Crypto.Blake2b

namespace UserAccounts.Argon2

/-- Which choices depend on the password: all, none, or all but those of the first half pass. -/
inductive Variant where
  | d
  | i
  | id
deriving DecidableEq, Repr

def Variant.code : Variant → Nat
  | .d => 0
  | .i => 1
  | .id => 2

/-- The two versions: in the newer one, later passes add to the blocks of earlier ones. -/
inductive Version where
  | v16
  | v19
deriving DecidableEq, Repr

def Version.code : Version → Nat
  | .v16 => 16
  | .v19 => 19

structure Parameters where
  /-- Memory, in kibibytes. -/
  memory : Nat
  passes : Nat
  lanes : Nat
  /-- Data that the hash is bound to. -/
  associated : Bytes := []
deriving DecidableEq, Repr

/-! ### Blocks -/

/-- Sixteen words. -/
structure Row where
  w0 : UInt64
  w1 : UInt64
  w2 : UInt64
  w3 : UInt64
  w4 : UInt64
  w5 : UInt64
  w6 : UInt64
  w7 : UInt64
  w8 : UInt64
  w9 : UInt64
  w10 : UInt64
  w11 : UInt64
  w12 : UInt64
  w13 : UInt64
  w14 : UInt64
  w15 : UInt64
deriving DecidableEq, Repr, Inhabited

/-- A sum to which twice the product of the lower halves is added. -/
@[inline] def addMul (x y : UInt64) : UInt64 :=
  x + y + 2 * ((x &&& 0xFFFFFFFF) * (y &&& 0xFFFFFFFF))

@[inline] def mix (q : Blake2b.Quad) : Blake2b.Quad :=
  let a := addMul q.a q.b
  let d := Blake2b.rotateRight (q.d ^^^ a) 32
  let c := addMul q.c d
  let b := Blake2b.rotateRight (q.b ^^^ c) 24
  let a := addMul a b
  let d := Blake2b.rotateRight (d ^^^ a) 16
  let c := addMul c d
  let b := Blake2b.rotateRight (b ^^^ c) 63
  ⟨a, b, c, d⟩

/-- Mixes sixteen words, seen as a square of four by four: the columns, then the diagonals. -/
def Row.permute (r : Row) : Row :=
  let p := mix ⟨r.w0, r.w4, r.w8, r.w12⟩
  let q := mix ⟨r.w1, r.w5, r.w9, r.w13⟩
  let s := mix ⟨r.w2, r.w6, r.w10, r.w14⟩
  let t := mix ⟨r.w3, r.w7, r.w11, r.w15⟩
  let u := mix ⟨p.a, q.b, s.c, t.d⟩
  let v := mix ⟨q.a, s.b, t.c, p.d⟩
  let w := mix ⟨s.a, t.b, p.c, q.d⟩
  let x := mix ⟨t.a, p.b, q.c, s.d⟩
  ⟨u.a, v.a, w.a, x.a, x.b, u.b, v.b, w.b, w.c, x.c, u.c, v.c, v.d, w.d, x.d, u.d⟩

def Row.xor (r s : Row) : Row :=
  ⟨r.w0 ^^^ s.w0, r.w1 ^^^ s.w1, r.w2 ^^^ s.w2, r.w3 ^^^ s.w3, r.w4 ^^^ s.w4, r.w5 ^^^ s.w5,
    r.w6 ^^^ s.w6, r.w7 ^^^ s.w7, r.w8 ^^^ s.w8, r.w9 ^^^ s.w9, r.w10 ^^^ s.w10, r.w11 ^^^ s.w11,
    r.w12 ^^^ s.w12, r.w13 ^^^ s.w13, r.w14 ^^^ s.w14, r.w15 ^^^ s.w15⟩

/-- A block: eight rows of sixteen words. -/
structure Block where
  r0 : Row
  r1 : Row
  r2 : Row
  r3 : Row
  r4 : Row
  r5 : Row
  r6 : Row
  r7 : Row
deriving DecidableEq, Repr, Inhabited

def Block.zero : Block := default

def Block.xor (x y : Block) : Block :=
  ⟨x.r0.xor y.r0, x.r1.xor y.r1, x.r2.xor y.r2, x.r3.xor y.r3, x.r4.xor y.r4, x.r5.xor y.r5,
    x.r6.xor y.r6, x.r7.xor y.r7⟩

def Block.permuteRows (x : Block) : Block :=
  ⟨x.r0.permute, x.r1.permute, x.r2.permute, x.r3.permute, x.r4.permute, x.r5.permute,
    x.r6.permute, x.r7.permute⟩

/-- Swaps rows and columns, where a column is two words wide. -/
def Block.transpose (x : Block) : Block :=
  ⟨⟨x.r0.w0, x.r0.w1, x.r1.w0, x.r1.w1, x.r2.w0, x.r2.w1, x.r3.w0, x.r3.w1,
      x.r4.w0, x.r4.w1, x.r5.w0, x.r5.w1, x.r6.w0, x.r6.w1, x.r7.w0, x.r7.w1⟩,
    ⟨x.r0.w2, x.r0.w3, x.r1.w2, x.r1.w3, x.r2.w2, x.r2.w3, x.r3.w2, x.r3.w3,
      x.r4.w2, x.r4.w3, x.r5.w2, x.r5.w3, x.r6.w2, x.r6.w3, x.r7.w2, x.r7.w3⟩,
    ⟨x.r0.w4, x.r0.w5, x.r1.w4, x.r1.w5, x.r2.w4, x.r2.w5, x.r3.w4, x.r3.w5,
      x.r4.w4, x.r4.w5, x.r5.w4, x.r5.w5, x.r6.w4, x.r6.w5, x.r7.w4, x.r7.w5⟩,
    ⟨x.r0.w6, x.r0.w7, x.r1.w6, x.r1.w7, x.r2.w6, x.r2.w7, x.r3.w6, x.r3.w7,
      x.r4.w6, x.r4.w7, x.r5.w6, x.r5.w7, x.r6.w6, x.r6.w7, x.r7.w6, x.r7.w7⟩,
    ⟨x.r0.w8, x.r0.w9, x.r1.w8, x.r1.w9, x.r2.w8, x.r2.w9, x.r3.w8, x.r3.w9,
      x.r4.w8, x.r4.w9, x.r5.w8, x.r5.w9, x.r6.w8, x.r6.w9, x.r7.w8, x.r7.w9⟩,
    ⟨x.r0.w10, x.r0.w11, x.r1.w10, x.r1.w11, x.r2.w10, x.r2.w11, x.r3.w10, x.r3.w11,
      x.r4.w10, x.r4.w11, x.r5.w10, x.r5.w11, x.r6.w10, x.r6.w11, x.r7.w10, x.r7.w11⟩,
    ⟨x.r0.w12, x.r0.w13, x.r1.w12, x.r1.w13, x.r2.w12, x.r2.w13, x.r3.w12, x.r3.w13,
      x.r4.w12, x.r4.w13, x.r5.w12, x.r5.w13, x.r6.w12, x.r6.w13, x.r7.w12, x.r7.w13⟩,
    ⟨x.r0.w14, x.r0.w15, x.r1.w14, x.r1.w15, x.r2.w14, x.r2.w15, x.r3.w14, x.r3.w15,
      x.r4.w14, x.r4.w15, x.r5.w14, x.r5.w15, x.r6.w14, x.r6.w15, x.r7.w14, x.r7.w15⟩⟩

/-- The block that two blocks make: their rows and then their columns are mixed, and what they
were is added. -/
def Block.compress (x y : Block) : Block :=
  let z := x.xor y
  z.xor z.permuteRows.transpose.permuteRows.transpose

def Row.words (r : Row) : List UInt64 :=
  [r.w0, r.w1, r.w2, r.w3, r.w4, r.w5, r.w6, r.w7, r.w8, r.w9, r.w10, r.w11, r.w12, r.w13, r.w14,
    r.w15]

def Block.words (x : Block) : List UInt64 :=
  x.r0.words ++ x.r1.words ++ x.r2.words ++ x.r3.words ++ x.r4.words ++ x.r5.words ++
    x.r6.words ++ x.r7.words

def Row.ofWords (words : Array UInt64) (start : Nat) : Row :=
  let word (i : Nat) := words.getD (start + i) 0
  ⟨word 0, word 1, word 2, word 3, word 4, word 5, word 6, word 7, word 8, word 9, word 10,
    word 11, word 12, word 13, word 14, word 15⟩

/-- The block with these words; zeros stand for those that are missing. -/
def Block.ofWords (words : Array UInt64) : Block :=
  ⟨.ofWords words 0, .ofWords words 16, .ofWords words 32, .ofWords words 48, .ofWords words 64,
    .ofWords words 80, .ofWords words 96, .ofWords words 112⟩

def Block.ofBytes (bytes : Bytes) : Block :=
  .ofWords (Blake2b.wordsOfBytes bytes).toArray

def Block.toBytes (x : Block) : Bytes :=
  x.words.flatMap Blake2b.bytesOfWord

/-! ### Hashes of any length -/

/-- The four bytes of a number below 2³², lowest first. -/
def littleEndian (n : Nat) : Bytes :=
  [UInt8.ofNat n, UInt8.ofNat (n / 256), UInt8.ofNat (n / 65536), UInt8.ofNat (n / 16777216)]

/-- The rest of a long hash, of `size` bytes, behind a hash `v` of 64 bytes: the first halves of
hashes of hashes, up to a whole one. -/
def stretch (v : Bytes) (size : Nat) : Bytes :=
  if 64 < size then
    let next := Blake2b.hash 64 v
    next.take 32 ++ stretch next (size - 32)
  else Blake2b.hash size v
termination_by size

def longHash (size : Nat) (message : Bytes) : Bytes :=
  let sized := littleEndian size ++ message
  if size ≤ 64 then Blake2b.hash size sized
  else
    let first := Blake2b.hash 64 sized
    first.take 32 ++ stretch first (size - 32)

/-- The hash of all that a password hash is made from. -/
def seed (variant : Variant) (version : Version) (p : Parameters) (password salt : Bytes)
    (size : Nat) : Bytes :=
  Blake2b.hash 64 (littleEndian p.lanes ++ littleEndian size ++ littleEndian p.memory ++
    littleEndian p.passes ++ littleEndian version.code ++ littleEndian variant.code ++
    littleEndian password.length ++ password ++ littleEndian salt.length ++ salt ++
    littleEndian 0 ++ littleEndian p.associated.length ++ p.associated)

/-! ### Filling the lanes -/

def Parameters.segmentLength (p : Parameters) : Nat :=
  max p.memory (8 * p.lanes) / (4 * p.lanes)

def Parameters.laneLength (p : Parameters) : Nat :=
  4 * p.segmentLength

def Parameters.blockCount (p : Parameters) : Nat :=
  p.lanes * p.laneLength

/-- The place of a segment: in which pass, in which quarter of the lane, in which lane. -/
structure Segment where
  pass : Nat
  quarter : Nat
  lane : Nat
deriving DecidableEq, Repr

/-- Whether the choices in a segment do not depend on the password. -/
def Segment.isIndependent (s : Segment) : Variant → Bool
  | .d => false
  | .i => true
  | .id => s.pass == 0 && s.quarter < 2

/-- The index of the block that a random word picks for the block `index` of a segment. -/
def referenceIndex (p : Parameters) (s : Segment) (index : Nat) (random : UInt64) : Nat :=
  let lane :=
    if s.pass == 0 && s.quarter == 0 then s.lane else (random >>> 32).toNat % p.lanes
  let behind :=
    if s.pass == 0 then s.quarter * p.segmentLength else p.laneLength - p.segmentLength
  let area :=
    if lane == s.lane then behind + index - 1 else if index == 0 then behind - 1 else behind
  let low : UInt64 := random &&& 0xFFFFFFFF
  let square : UInt64 := (low * low) >>> 32
  let back := area * square.toNat / UInt32.size
  let start := if s.pass == 0 || s.quarter == 3 then 0 else (s.quarter + 1) * p.segmentLength
  lane * p.laneLength + (start + (area - 1 - back)) % p.laneLength

/-- The `number`th block of addresses for a segment; it holds 128 of them. -/
def addressBlock (variant : Variant) (p : Parameters) (s : Segment) (number : Nat) : Block :=
  let input : Block := .ofWords #[UInt64.ofNat s.pass, UInt64.ofNat s.lane, UInt64.ofNat s.quarter,
    UInt64.ofNat p.blockCount, UInt64.ofNat p.passes, UInt64.ofNat variant.code,
    UInt64.ofNat number]
  .compress .zero (.compress .zero input)

def addresses (variant : Variant) (p : Parameters) (s : Segment) : Array UInt64 :=
  if s.isIndependent variant then
    ((List.range ((p.segmentLength + 127) / 128)).flatMap fun i =>
      (addressBlock variant p s (i + 1)).words).toArray
  else #[]

/-- Fills the blocks of a segment from `index` on, `count` of them. -/
def fillBlocks (version : Version) (p : Parameters) (s : Segment) (known : Array UInt64) :
    Nat → Nat → Array Block → Array Block
  | 0, _, blocks => blocks
  | count + 1, index, blocks =>
    let base := s.lane * p.laneLength
    let column := s.quarter * p.segmentLength + index
    let current := base + column
    let previous := if column == 0 then base + p.laneLength - 1 else current - 1
    let before := blocks.getD previous .zero
    let random := if known.isEmpty then before.r0.w0 else known.getD index 0
    let made := before.compress (blocks.getD (referenceIndex p s index random) .zero)
    let made :=
      if s.pass != 0 && version == .v19 then made.xor (blocks.getD current .zero) else made
    fillBlocks version p s known count (index + 1) (blocks.setIfInBounds current made)

/-- Fills a segment; the first two blocks of a lane are there from the start. -/
def fillSegment (variant : Variant) (version : Version) (p : Parameters) (blocks : Array Block)
    (s : Segment) : Array Block :=
  let first := if s.pass == 0 && s.quarter == 0 then 2 else 0
  fillBlocks version p s (addresses variant p s) (p.segmentLength - first) first blocks

def Parameters.segments (p : Parameters) : List Segment :=
  (List.range p.passes).flatMap fun pass =>
    (List.range 4).flatMap fun quarter =>
      (List.range p.lanes).map fun lane => ⟨pass, quarter, lane⟩

/-- The blocks before the first pass: two for each lane, made from the seed. -/
def startBlocks (p : Parameters) (seed : Bytes) : Array Block :=
  (List.range p.lanes).foldl (fun blocks lane =>
    let make (i : Nat) :=
      Block.ofBytes (longHash 1024 (seed ++ littleEndian i ++ littleEndian lane))
    (blocks.setIfInBounds (lane * p.laneLength) (make 0)).setIfInBounds
      (lane * p.laneLength + 1) (make 1))
    (Array.replicate p.blockCount .zero)

/-- The blocks after the last pass. -/
def fill (variant : Variant) (version : Version) (p : Parameters) (seed : Bytes) : Array Block :=
  p.segments.foldl (fillSegment variant version p) (startBlocks p seed)

def hash (variant : Variant) (version : Version) (p : Parameters) (password salt : Bytes)
    (size : Nat) : Bytes :=
  let blocks := fill variant version p (seed variant version p password salt size)
  let last := (List.range p.lanes).foldl (fun (x : Block) lane =>
    x.xor (blocks.getD (lane * p.laneLength + (p.laneLength - 1)) .zero)) .zero
  longHash size last.toBytes

end UserAccounts.Argon2
