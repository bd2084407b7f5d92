/-
# Joiners in labels

Two characters without a width, U+200C and U+200D, part or join the letters next
to them. A label may hold one behind a virama, and U+200C also where the letters on
both sides would join without it; transparent characters in between do not count
(`joinersFit`).

Key definitions: `Joining`, `joining`, `joinersFit`.
-/
import UserAccounts.Text.Canonical

namespace UserAccounts.Host

/-- How a character joins its neighbours in a cursive script. -/
inductive Joining where
  | next
  | previous
  | both
  | transparent
  | neither
deriving DecidableEq, Repr

/-- The way of joining behind a letter of the table below. -/
def Joining.ofLetter (c : Char) : Joining :=
  if c = 'L' then .next
  else if c = 'R' then .previous
  else if c = 'D' then .both
  else if c = 'T' then .transparent
  else .neither

/-- The way of joining of every code point, as steps: the gap to the step and a letter. -/
def joinings : Text.StepTable Joining := .ofSteps <|
  (Text.words
  "0.N ad.T 1.N 252.T 70.N 113.T 7.N 107.T 2d.N 1.T 1.N 1.T 2.N 1.T 2.N 1.T 1.N 48.T b.N 1.T
    1.N 3.D 1.N 1.R 4.D 1.R 1.D 1.R 1.D 5.R 4.D d.N 1.D 7.R 1.D 2.T 15.N e.D 2.T 1.R 3.N 1.R 3.D
    10.R 12.D 26.R 1.D 2.R 9.D 1.R 1.D 1.R 1.D 2.R 2.N 1.R 1.T 7.N 2.T 6.N 2.T 2.N 1.T 4.R 2.N
    a.D 3.N 2.D 1.N f.T 1.R 1.T 1.D 3.R 5.D 4.R 1.D 9.R 1.D 1.R 1.D 1.R 1.D 2.R 1.T 1b.N 2.R 1.D
    b.R 3.D f.R 2.D 4.R 1.D 1.R 2.D 3.R 2.D 6.N 26.T b.N 19.D 21.T 9.N 9.T 1.N 18.T 4.N 1.T 9.N
    1.T 3.N 1.T 5.N 12.R 1.D 5.R 2.D 1.R 1.D a.R 1.D 1.R 3.T 3.N 4.D 1.N 1.D 4.N 1.R 1.D 1.R 2.N
    5.R 13.N 3.D 1.N 2.D 5.R 1.D 1.N 7.T 9.D a.R 3.N 1.R 1.D 2.R 2.D 6.R 1.D f.N 1.T 18.N 1.T
    20.N 37.T 1.N 1.T 1.N 4.T 8.N 4.T 1.N 3.T 7.N a.T 2.N 1d.T 1.N 3a.T 1.N 4.T 4.N 8.T 1.N 14.T
    2.N 1a.T 1.N 2.T 2.N 39.T 1.N 4.T 2.N 4.T 2.N 2.T 3.N 3.T 1.N 1e.T 2.N 3.T 1.N b.T 2.N 39.T
    1.N 4.T 5.N 1.T 2.N 4.T 1.N 14.T 2.N 16.T 6.N 1.T 1.N 3a.T 1.N 2.T 1.N 1.T 4.N 8.T 1.N 7.T
    2.N b.T 2.N 1e.T 1.N 3d.T 1.N c.T 1.N 32.T 1.N 3.T 1.N 37.T 1.N 1.T 3.N 5.T 3.N 1.T 4.N 7.T
    2.N b.T 2.N 1d.T 1.N 3a.T 1.N 2.T 1.N 6.T 1.N 5.T 2.N 14.T 2.N 1c.T 2.N 39.T 2.N 4.T 4.N 8.T
    1.N 14.T 2.N 1d.T 1.N 48.T 1.N 7.T 3.N 1.T 1.N 5a.T 1.N 2.T 7.N c.T 8.N 62.T 1.N 2.T 9.N b.T
    7.N 49.T 2.N 1b.T 1.N 1.T 1.N 1.T 1.N 37.T e.N 1.T 5.N 1.T 2.N 5.T b.N 1.T 24.N 9.T 1.N 66.T
    4.N 1.T 6.N 1.T 2.N 2.T 2.N 19.T 2.N 4.T 3.N 10.T 4.N d.T 1.N 2.T 2.N 6.T 1.N f.T 1.N 2bf.T
    3.N 3b2.T 3.N 1d.T 2.N 1e.T 2.N 1e.T 2.N 40.T 2.N 1.T 7.N 8.T 1.N 2.T b.N 9.T 1.N 29.D 1.N
    3.T 3.N 1.T 1.N 10.D 59.N c.T 2.D 22.T 1.D 1.N 75.T 3.N 4.T 2.N 9.T 1.N 6.T 3.N db.T 2.N 2.T
    1.N 3a.T 1.N 1.T 7.N 1.T 1.N 1.T 1.N 2.T 8.N 6.T a.N 2.T 1.N 30.T 2e.N 2.T c.N 14.T 4.N 30.T
    1.N 1.T 5.N 1.T 1.N 5.T 1.N 28.T 9.N c.T 2.N 20.T 4.N 2.T 2.N 1.T 3.N 38.T 1.N 1.T 2.N 3.T
    1.N 1.T 3.N 3a.T 8.N 2.T 2.N 98.T 3.N 1.T d.N 1.T 7.N 4.T 1.N 6.T 1.N 3.T 2.N c6.T 40.N
    20b.T 1.N 2.T 2.N 1a.T 5.N 31.T 5.N 5.T 6.N 60.T 21.N bfe.T 3.N 8d.T 1.N 60.T 20.N 22a.T 4.N
    6b.T 2.N 75d4.T 4.N 1.T a.N 20.T 2.N 50.T 2.N 110.T 1.N 3.T 1.N 4.T 1.N 19.T 2.N 5.T 1.N
    13.D 32.L 1.N 51.T 2.N 1a.T 12.N d.T 1.N 26.T 8.N 19.T b.N 2e.T 3.N 30.T 1.N 2.T 4.N 2.T 2.N
    27.T 1.N 43.T 6.N 2.T 2.N 2.T 2.N c.T 1.N 8.T 1.N 2f.T 1.N 33.T 1.N 1.T 3.N 2.T 2.N 5.T 2.N
    1.T 1.N 2a.T 2.N 8.T 1.N ee.T 1.N 2.T 1.N 4.T 1.N 4f30.T 1.N 2e1.T 10.N 10.T 10.N cf.T 1.N
    f9.T 3.N 201.T 1.N e2.T 1.N 95.T 5.N 686.T 3.N 1.T 2.N 5.T 4.N 28.T 3.N 4.T 1.N 80.D 5.R 1.N
    1.R 1.N 1.R 2.N 2.L 1.R 5.D 4.L 1.D 5.R 1.D 3.R 1.N 2.R 1.T 2.N 4.D 4.R 1.N 90.D 1.R 1.D 1.R
    3.D 3.R 1.D 2.R 1.D 1.R 2.D 1.R 1.N 17.R 4.D 2.N 151.L 1.D 21.R 1.D 1.T 4.N 41.T 5.N 13d.T
    2.N 15.R 1.D 2.N 1.D 2.N 32.T 6.N 30.D 3.R 1.D 11.N 1.T b.D 3.R 1.N 1b.D 4.R 2.D c.T 4.N
    2a.D 1.N 1.D 2.R 3.N 1.D 1.R 2.D 2.R 1.D 2.N 1.D 1.R 2.D 1.N 4.R 1.D 1.L 1.N 35.T 1.N 36.T
    f.N 29.T 1.N 2.T 2.N a.T 3.N 31.T 4.N 2.T 2.N 7.T 1.N 3d.T 3.N 24.T 5.N 1.T 8.N 3e.T 1.N c.T
    2.N 34.T 9.N a.T 4.N 2.T 1.N 5f.T 3.N 2.T 1.N 1.T 2.N 6.T 1.N 2.T 1.N 9d.T 1.N 3.T 8.N 15.T
    2.N 39.T 2.N 3.T 1.N 25.T 7.N 3.T 5.N 46.T 6.N d.T 1.N 1.T 1.N 1.T 1.N e.T 2.N 55.T 8.N 2.T
    3.N 1.T 1.N 17.T 1.N 54.T 6.N 1.T 1.N 4.T 2.N 1.T 2.N ee.T 4.N 6.T 2.N 1.T 2.N 1b.T 2.N 55.T
    8.N 2.T 1.N 1.T 2.N 6a.T 1.N 1.T 1.N 2.T 6.N 1.T 1.N 65.T 1.N 1.T 1.N 2.T 4.N 1.T 5.N 103.T
    9.N 1.T 2.N 100.T 2.N 1.T 1.N 4.T 1.N 90.T 4.N 2.T 2.N 4.T 1.N 20.T a.N 28.T 6.N 2.T 4.N 8.T
    1.N 9.T 6.N 2.T 3.N 2e.T d.N 1.T 2.N c6.T 1.N 1.T 3.N 1.T 1.N c9.T 7.N 1.T 6.N 1.T 1.N 52.T
    16.N 2.T 7.N 1.T 2.N 1.T 2.N 7a.T 6.N 3.T 1.N 1.T 2.N 1.T 7.N 1.T 1.N 48.T 2.N 3.T 1.N 1.T
    1.N 15b.T 2.N b.T 2.N 34.T 5.N 5.T 1.N 1.T 1.N 17.T 1.N 14d5.T 11.N 6.T f.N 2cc8.T c.N 3.T
    3.N 9c0.T 5.N 3b.T 7.N 418.T 1.N 3f.T 4.N 51.T 1.N 4cb8.T 2.N 1.T 4.N 125c.T 2e.N 2.T 17.N
    220.T 3.N 9.T 10.N 2.T 7.N 1e.T 4.N 94.T 3.N 7bb.T 37.N 4.T 32.N 8.T 1.N e.T 1.N 16.T 5.N
    1.T f.N 550.T 7.N 1.T 11.N 2.T 7.N 1.T 2.N 1.T 5.N 64.T 1.N a0.T 7.N 177.T 1.N 3d.T 4.N
    1fc.T 4.N fe.T 2.N f3.T 1.N 2.T 1.N 7.T 2.N 5.T 1.N 1da.T 7.N 29.D 44.T 8.N c16b5.T 1.N 1e.T
    60.N 80.T f0.N").map fun word =>
    (Text.hexNumber (word.takeWhile (· != '.')), Joining.ofLetter (word.getLast?.getD 'N'))

def joining (c : Char) : Joining :=
  (joinings.get? c).getD .neither

/-- The way of joining of the first character that is not transparent. -/
def nearestJoining (cs : List Char) : Joining :=
  ((cs.map joining).find? (· != .transparent)).getD .neither

/-- Whether the letters on both sides would join; those before are given last first. -/
def wouldJoin (before after : List Char) : Bool :=
  (nearestJoining before == .next || nearestJoining before == .both) &&
  (nearestJoining after == .previous || nearestJoining after == .both)

def behindVirama (before : List Char) : Bool :=
  before.head?.any fun c => Text.combiningClass c == 9

/-- Whether every joiner stands where one may stand; `before` holds what was passed, last
first. -/
def joinersFit (before : List Char) : List Char → Bool
  | [] => true
  | c :: cs =>
    (if c = '\u200c' then behindVirama before || wouldJoin before cs
      else if c = '\u200d' then behindVirama before
      else true) &&
    joinersFit (c :: before) cs

end UserAccounts.Host
