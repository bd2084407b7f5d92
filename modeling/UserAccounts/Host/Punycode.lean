/-
# Labels of host names in ASCII

Punycode writes a label as its ASCII characters, a hyphen, and a run of digits
that say, for each other character in the order of code points, how many places
to go on before it is inserted. `encode` writes it, `decode` reads it; both give
up where a number would pass 32 bits.

Key definitions: `Punycode.encode`, `Punycode.decode`.
-/

namespace UserAccounts.Punycode

/-- The largest number that the digits may add up to. -/
def limit : Nat := 0xFFFFFFFF

/-- The smallest digit that does not end a number at position `k`. -/
def threshold (k bias : Nat) : Nat :=
  if k ≤ bias then 1 else if bias + 26 ≤ k then 26 else k - bias

theorem one_le_threshold (k bias : Nat) : 1 ≤ threshold k bias := by
  unfold threshold
  split
  · omega
  · split <;> omega

/-- Divides a delta down until it is small, counting positions. -/
def scaled (delta k : Nat) : Nat :=
  if 455 < delta then scaled (delta / 35) (k + 36) else k + 36 * delta / (delta + 38)
termination_by delta
decreasing_by omega

/-- The bias for the next number, after a delta over `points` characters. -/
def adapted (delta points : Nat) (first : Bool) : Nat :=
  let delta := if first then delta / 700 else delta / 2
  scaled (delta + delta / points) 0

def digitValue? (c : Char) : Option Nat :=
  if '0' ≤ c && c ≤ '9' then some (c.toNat - 22)
  else if 'A' ≤ c && c ≤ 'Z' then some (c.toNat - 65)
  else if 'a' ≤ c && c ≤ 'z' then some (c.toNat - 97)
  else none

def digit (n : Nat) : Char :=
  if n < 26 then Char.ofNat (97 + n) else Char.ofNat (22 + n)

/-! ### Reading -/

/-- Reads one number: the digits at positions `k`, `k + 36`, … add to `total`, the first with
`weight`. -/
def readNumber (bias : Nat) : List Char → Nat → Nat → Nat → Option (Nat × List Char)
  | [], _, _, _ => none
  | c :: cs, k, weight, total =>
    match digitValue? c with
    | none => none
    | some d =>
      if (limit - total) / weight < d then none
      else
        let t := threshold k bias
        if d < t then some (total + d * weight, cs)
        else if limit / (36 - t) < weight then none
        else readNumber bias cs (k + 36) (weight * (36 - t)) (total + d * weight)

theorem readNumber_length {bias : Nat} {cs rest : List Char} {k weight total n : Nat}
    (h : readNumber bias cs k weight total = some (n, rest)) : rest.length < cs.length := by
  induction cs generalizing k weight total with
  | nil => simp [readNumber] at h
  | cons c cs ih =>
    simp only [readNumber] at h
    split at h
    · simp at h
    · split at h
      · simp at h
      · split at h
        · simp only [Option.some.injEq, Prod.mk.injEq] at h
          simp [h.2]
        · split at h
          · simp at h
          · have := ih h
            simp only [List.length_cons]
            omega

/-- Reads number after number. Each moves the place of insertion on by so much, where going once
round the `out.length + 1` places steps to the next code point. -/
def insertAll (input out : List Char) (code place bias : Nat) : Option (List Char) :=
  if input.isEmpty then some out
  else
    match h : readNumber bias input 36 1 place with
    | none => none
    | some (total, rest) =>
      let places := out.length + 1
      let bias := adapted (total - place) places (place == 0)
      if limit - code < total / places then none
      else
        let code := code + total / places
        if code.isValidChar then
          insertAll rest (out.insertIdx (total % places) (Char.ofNat code)) code
            (total % places + 1) bias
        else none
termination_by input.length
decreasing_by exact readNumber_length h

/-- The characters before the last hyphen and those behind it; none before it if there is no
hyphen, and all behind it if it comes first. -/
def splitAtLastHyphen (cs : List Char) : List Char × List Char :=
  let behind := (cs.reverse.takeWhile (· != '-')).reverse
  let before := cs.take (cs.length - behind.length)
  match before.dropLast with
  | [] => ([], cs)
  | basic => (basic, behind)

def decode (cs : List Char) : Option (List Char) :=
  let (basic, input) := splitAtLastHyphen cs
  if basic.all (fun c => c.toNat < 128) then insertAll input basic 128 0 72 else none

/-! ### Writing -/

/-- The digits of a number, from position `k` on. -/
def digits (bias q k : Nat) : List Char :=
  let t := threshold k bias
  if h : q < t then [digit q]
  else digit (t + (q - t) % (36 - t)) :: digits bias ((q - t) / (36 - t)) (k + 36)
termination_by q
decreasing_by
  have h1 := one_le_threshold k bias
  have h2 : (q - threshold k bias) / (36 - threshold k bias) ≤ q - threshold k bias :=
    Nat.div_le_self _ _
  omega

/-- What is known while a label is written: the numbers written so far (last digit first), the
places passed since the last one, the bias, and how many characters are done. -/
structure Progress where
  written : List Char
  delta : Nat
  bias : Nat
  done : Nat

/-- Passes one character of the label, looking for the code point `code`. -/
def Progress.pass (basic code : Nat) (p : Progress) (c : Char) : Progress :=
  if c.toNat < code then { p with delta := p.delta + 1 }
  else if c.toNat = code then
    { written := (digits p.bias p.delta 36).reverse ++ p.written
      delta := 0
      bias := adapted p.delta (p.done + 1) (p.done == basic)
      done := p.done + 1 }
  else p

/-- Writes the numbers for the code points `codes`, which ascend; `code` is the least one not yet
passed. -/
def writeAll (label : List Char) (basic : Nat) : List Nat → Nat → Progress → Option Progress
  | [], _, p => some p
  | next :: codes, code, p =>
    if (limit - p.delta) / (p.done + 1) < next - code then none
    else
      let p := label.foldl (Progress.pass basic next)
        { p with delta := p.delta + (next - code) * (p.done + 1) }
      writeAll label basic codes (next + 1) { p with delta := p.delta + 1 }

def encode (label : List Char) : Option (List Char) :=
  let basic := label.filter fun c => c.toNat < 128
  let codes := ((label.map Char.toNat).filter fun n => 128 ≤ n).mergeSort.eraseDups
  let start := if basic.isEmpty then [] else '-' :: basic.reverse
  (writeAll label basic.length codes 128 ⟨start, 0, 72, basic.length⟩).map
    fun p => p.written.reverse

end UserAccounts.Punycode
