/-
# Similarity

How alike two words are, from 0 to 1 (the measure of Jaro). Two letters match if
they are equal and stand no further apart than half the longer word, less one;
each letter matches once, and the earliest match is taken. The similarity is the
mean of three shares: of the letters of either word that match, and of the matches
that are in order.

Key definitions: `matched`, `similarity`, `isSimilar`, `similarWords`.
-/

namespace UserAccounts.Text

/-- Marks the first letter equal to `c` that is not marked and stands between the places `low` and
`high`; `place` is the place of the first letter. -/
def markFirst (c : Char) (low high : Nat) : Nat → List (Char × Bool) → Option (List (Char × Bool))
  | _, [] => none
  | place, (d, marked) :: rest =>
    if d = c && !marked && low ≤ place && place ≤ high then some ((d, true) :: rest)
    else (markFirst c low high (place + 1) rest).map ((d, marked) :: ·)

/-- The letters of one word, from the place `place` on, that match letters of the other, and the
other with all matches marked. -/
def markAll (reach : Nat) : Nat → List Char → List (Char × Bool) → List Char × List (Char × Bool)
  | _, [], other => ([], other)
  | place, c :: cs, other =>
    match markFirst c (place - reach) (place + reach) 0 other with
    | none => markAll reach (place + 1) cs other
    | some other =>
      let (found, other) := markAll reach (place + 1) cs other
      (c :: found, other)

def matched (a b : List Char) : List Char × List Char :=
  let reach := max a.length b.length / 2 - 1
  let (found, marks) := markAll reach 0 a (b.map fun c => (c, false))
  (found, (marks.filter (·.2)).map (·.1))

def similarity (a b : List Char) : Rat :=
  let (found, sought) := matched a b
  let count := found.length
  let displaced := (found.zip sought).countP fun (c, d) => c ≠ d
  if count = 0 then 0
  else (mkRat count a.length + mkRat count b.length + mkRat (count - displaced / 2) count) / 3

/-- Whether two words are alike enough for one to be meant by the other. -/
def isSimilar (a b : String) : Bool :=
  decide (mkRat 7 10 ≤ similarity a.toList b.toList)

/-- Puts a word in front of the first that is more similar to `word`. -/
def insertBySimilarity (word new : String) : List String → List String
  | [] => [new]
  | old :: rest =>
    if similarity word.toList new.toList < similarity word.toList old.toList then new :: old :: rest
    else old :: insertBySimilarity word new rest

/-- The words that are similar to a word, the most similar last; of words that are as similar the
later one comes later. -/
def similarWords (word : String) (words : List String) : List String :=
  (words.filter (isSimilar word)).foldl (fun found new => insertBySimilarity word new found) []

end UserAccounts.Text
