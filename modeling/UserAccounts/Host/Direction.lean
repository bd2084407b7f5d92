/-
# The direction of host names

A host name with a label that runs from right to left must keep the characters
of the two directions apart, label by label (`bidiRule`). Only a few groups of the
bidirectional classes matter for this: `Direction` names them.

Key definitions: `direction`, `isRightToLeft`, `bidiRule`.
-/
import UserAccounts.Text.RangeTable

namespace UserAccounts.Host

/-- The groups of bidirectional classes that the rule tells apart. -/
inductive Direction where
  /-- Class L. -/
  | left
  /-- Classes R and AL. -/
  | right
  /-- Class AN. -/
  | arabicNumber
  /-- Class EN. -/
  | europeanNumber
  /-- Class NSM. -/
  | mark
  /-- Classes ES, CS, ET, ON and BN. -/
  | neutral
  /-- All other classes. -/
  | other
deriving DecidableEq, Repr

/-- The group of a letter of the table below. -/
def Direction.ofLetter (c : Char) : Direction :=
  if c = 'L' then .left
  else if c = 'R' then .right
  else if c = 'A' then .arabicNumber
  else if c = 'E' then .europeanNumber
  else if c = 'M' then .mark
  else if c = 'N' then .neutral
  else .other

/-- The group of every code point, as steps: the gap to the step and a letter. -/
def directions : Text.StepTable Direction := .ofSteps <|
  (Text.words
  "0.N 9.O 5.N e.O 5.N f.E a.N 7.L 1a.N 6.L 1a.N a.O 1.N 24.L 1.N 7.E 2.N 1.L 1.N 3.E 1.L 1.N
    5.L 17.N 1.L 1f.N 1.L 1c1.N 2.L 7.N e.L 2.N e.L 5.N 9.L 1.N 11.M 70.L 4.N 2.L 8.N 1.L 5.N
    2.L 1.N 1.L 6e.N 1.L 8c.M 7.L 100.N 1.L 2.N 3.R 1.M 2d.R 1.M 1.R 1.M 2.R 1.M 2.R 1.M 1.R
    38.A 6.N 2.R 1.N 2.R 1.N 1.R 1.N 2.M b.R 30.M 15.A a.N 1.A 2.R 3.M 1.R 65.M 7.A 1.N 1.M 6.R
    2.M 2.N 1.M 4.R 2.E a.R 17.M 1.R 1e.M 1b.R 5b.M b.R 3a.M 9.R 2.N 4.R 3.M 1.R 18.M 4.R 1.M
    9.R 1.M 3.R 1.M 5.R 2b.M 3.R 34.A 2.R 5.M 9.R 2a.M 18.A 1.M 20.L 37.M 1.L 1.M 1.L 4.M 8.L
    4.M 1.L 3.M 7.L a.M 2.L 1d.M 1.L 3a.M 1.L 4.M 4.L 8.M 1.L 14.M 2.L e.N 2.L 7.N 1.L 2.M 1.L
    2.M 2.L 39.M 1.L 4.M 2.L 4.M 2.L 2.M 3.L 3.M 1.L 1e.M 2.L 3.M 1.L b.M 2.L 39.M 1.L 4.M 5.L
    1.M 2.L 4.M 1.L 14.M 2.L d.N 1.L 8.M 6.L 1.M 1.L 3a.M 1.L 2.M 1.L 1.M 4.L 8.M 1.L 7.M 2.L
    b.M 2.L 1e.M 1.L 3d.M 1.L c.M 1.L 25.N 8.L 5.M 1.L 3.M 1.L 37.M 1.L 1.M 3.L 5.M 3.L 1.M 4.L
    7.M 2.L b.M 2.L 14.N 7.L 2.M 1.L 3a.M 1.L f.M 2.L 14.M 2.L 1c.M 2.L 39.M 2.L 4.M 4.L 8.M 1.L
    14.M 2.L 1d.M 1.L 48.M 1.L 7.M 3.L 1.M 1.L 5a.M 1.L 2.M 7.L 4.N 1.L 7.M 8.L 62.M 1.L 2.M 9.L
    b.M 7.L 49.M 2.L 1b.M 1.L 1.M 1.L 1.M 1.N 4.L 33.M e.L 1.M 5.L 1.M 2.L 5.M b.L 1.M 24.L 9.M
    1.L 66.M 4.L 1.M 6.L 1.M 2.L 2.M 2.L 19.M 2.L 4.M 3.L 10.M 4.L d.M 1.L 2.M 2.L 6.M 1.L f.M
    1.L 2bf.M 3.L 30.N a.L 66.N 1.L 27f.O 1.L 1a.N 2.L 75.M 3.L 1d.M 2.L 1e.M 2.L 1e.M 2.L 40.M
    2.L 1.M 7.L 8.M 1.L 2.M b.L 7.N 1.L 1.M 1.L 12.N a.L 6.N b.M 3.N 1.M 1.L 75.M 2.L 22.M 1.L
    76.M 3.L 4.M 2.L 9.M 1.L 6.M 3.L 4.N 1.L 3.N 2.L 98.N 22.L 17.M 2.L 2.M 1.L 3a.M 1.L 1.M 7.L
    1.M 1.L 1.M 1.L 2.M 8.L 6.M a.L 2.M 1.L 30.M 2e.L 2.M c.L 14.M 4.L 30.M 1.L 1.M 5.L 1.M 1.L
    5.M 1.L 28.M 9.L c.M 2.L 20.M 4.L 2.M 2.L 1.M 3.L 38.M 1.L 1.M 2.L 3.M 1.L 1.M 3.L 3a.M 8.L
    2.M 2.L 98.M 3.L 1.M d.L 1.M 7.L 4.M 1.L 6.M 1.L 3.M 2.L c6.M 40.L 1bd.N 1.L 1.N 3.L b.N 3.L
    d.N 3.L d.N 3.L d.N 2.L 1.O b.N 3.L 1.R 1.N 18.O 7.N 30.O 1.N 6.O 4.N 6.E 1.L 3.E 6.N 5.L
    1.E a.N 5.L 11.N 30.M 21.L f.N 2.L 1.N 4.L 1.N 2.L a.N 1.L 1.N 3.L 5.N 6.L 1.N 1.L 1.N 1.L
    1.N 1.L 4.N 1.L b.N 2.L 4.N 5.L 5.N 4.L 2.N 10.L 29.N 3.L 4.N 1a6.L 45.N 1a.L 1.N 94.L 16.N
    b.L 15.N 28.E 14.L 4e.N 1c2.L 1.N 153.L 100.N 274.L 2.N 8a.L e5.N 6.L 4.M 3.L 7.N 7.L 7f.M
    1.L 60.M 20.N 5e.L 22.N 1a.L 1.N 59.L c.N d6.L 1a.N 10.O 1.N 4.L 3.N 19.L 9.M 4.L 2.N 1.L
    5.N 2.L 5.N 3.L 59.M 2.N 2.L 3.N 1.L 5a.N 1.L c4.N 26.L 9.N 1.L 2d.N 2.L 31.N 10.L 1c.N 3.L
    32.N f.L c.N 4.L a7.N 4.L 63.N 2.L 1f.N 1.L 19c0.N 40.L 5690.N 37.L 146.N 3.L 5f.M 4.N 1.M
    a.N 2.L 1e.M 2.L 50.M 2.L e.N 22.L 66.N 1.L 79.M 1.L 3.M 1.L 4.M 1.L 19.M 2.L 1.N 4.M 1.L
    b.N 2.L 3a.N 4.L 4c.M 2.L 1a.M 12.L d.M 1.L 26.M 8.L 19.M b.L 2e.M 3.L 30.M 1.L 2.M 4.L 2.M
    2.L 27.M 1.L 43.M 6.L 2.M 2.L 2.M 2.L c.M 1.L 8.M 1.L 2f.M 1.L 33.M 1.L 1.M 3.L 2.M 2.L 5.M
    2.L 1.M 1.L 2a.M 2.L 8.M 1.L 73.N 2.L 79.M 1.L 2.M 1.L 4.M 1.L 4f2f.R 1.M 1.R a.N 1.R 99.N
    10.R 16b.N 12.R 40.N 2.R 36.N 28.R d.N 3.M 10.N a.L 6.M 10.N 23.L 1.N 13.L 1.N 4.L 4.R 8f.N
    1.L 1.N f.E a.N 7.L 1a.N 6.L 1a.N b.L 7a.N 7.L 1.N 7.L 1.N 10.L 101.N 1.L 3e.N 4d.L 3.N d.L
    3.N 1.L 5c.M 1.L e2.M 1.E 1b.L 7a.M 5.L 485.R 11f.N 1.R e1.M 3.R 1.M 2.R 5.M 4.R 28.M 3.R
    4.M 1.R a5.M 2.R 52.N 7.R 1e4.M 4.R 8.A a.R 6.A a.R 1f.M 5.N 1.R 1f.N 2.R d0.A 1f.R 2c.M 2.R
    23.N 9.R 21.M 6.R 46.M b.R 31.M 4.R 7a.L 1.M 1.L 36.M f.L b.N 14.L a.M 1.L 2.M 2.L a.M 3.L
    31.M 4.L 2.M 2.L 7.M 1.L 3d.M 3.L 24.M 5.L 1.M 8.L 3e.M 1.L c.M 2.L 34.M 9.L a.M 4.L 2.M 1.L
    5f.M 3.L 2.M 1.L 1.M 2.L 6.M 1.L 2.M 1.L 9d.M 1.L 3.M 8.L 15.M 2.L 39.M 2.L 3.M 1.L 25.M 7.L
    3.M 5.L 46.M 6.L d.M 1.L 1.M 1.L 1.M 1.L e.M 2.L 55.M 8.L 2.M 3.L 1.M 1.L 17.M 1.L 54.M 6.L
    1.M 1.L 4.M 2.L 1.M 2.L ee.M 4.L 6.M 2.L 1.M 2.L 1b.M 2.L 55.M 8.L 2.M 1.L 1.M 2.L 1f.N d.L
    3e.M 1.L 1.M 1.L 2.M 6.L 1.M 1.L 65.M 3.L 2.M 4.L 1.M 5.L 103.M 9.L 1.M 2.L 100.M 2.L 1.M
    1.L 4.M 1.L 90.M 4.L 2.M 2.L 4.M 1.L 20.M 6.L 2.M 2.L 28.M 6.L 2.M 4.L 8.M 1.L 9.M 6.L 2.M
    3.L 2e.M d.L 1.M 2.L c6.M 1.L 1.M 3.L 1.M 1.L c9.M 7.L 1.M 6.L 54.M 16.L 2.M 7.L 1.M 2.L 1.M
    2.L 7a.M 6.L 3.M 1.L 1.M 2.L 1.M 7.L 1.M 1.L 48.M 2.L 3.M 1.L 1.M 1.L 15b.M 2.L b.M 2.L 34.M
    5.L 5.M 1.L 1.M 1.L 17.M 1.L 7a.N 1d.L 144e.M 1.L 6.M f.L 2cc8.M c.L 3.M 3.L 9c0.M 5.L 3b.M
    7.L 418.M 1.L 3f.M 4.L 4f.N 1.L 1.M 1.L 4cb8.M 2.L 1.N 4.L f5c.N f0.E a.N 3.L 3.N 1b4.L 6.N
    17.L f.N 11.L f.M 2e.L 2.M 17.L 220.M 3.L 9.N 8.M 8.L 2.M 7.L 1e.M 4.L 3b.N 2.L 15.N 42.M
    3.N 1.L ba.N 57.L 384.N 1.L 39.N 1.L 39.N 1.L 39.N 1.L 39.N 1.L a.E 32.L 200.M 37.L 4.M 32.L
    8.M 1.L e.M 1.L 16.M 5.L 1.M f.L 550.M 7.L 1.M 11.L 2.M 7.L 1.M 2.L 1.M 5.L 64.M 1.L a0.M
    7.L 177.M 1.L 3d.M 4.L f.N 1.L 1ec.M 4.L fe.M 2.L f3.M 1.L 2.M 1.L 7.M 2.L 5.M 1.L 10a.R
    d0.M 7.R 6d.M 7.R 5a5.N 2.R 10e.N 2c.L 4.N 64.L c.N f.L 2.N f.L 1.N f.L 1.N 25.L a.E b.N 5.L
    1f.N 1.L 3a.N 6.L 3d.N 1.L b2.N 6.L 9a.N 3d9.L 3.N 11.L 3.N d.L 3.N da.L 6.N c.L 4.N 1.L f.N
    c.L 4.N 38.L 8.N a.L 6.N 28.L 8.N 1e.L 2.N c.L 4.N 2.L e.N 9.L 27.N 158.L 8.N e.L 2.N d.L
    3.N b.L 3.N 39.L 1.N 1.L 4.N 10.L 2.N c.L 4.N a.L 7.N 93.L 1.N 5c.E a.N 1.L 403.N 2.L fffe.N
    2.L fffe.N 2.L fffe.N 2.L fffe.N 2.L fffe.N 2.L fffe.N 2.L fffe.N 2.L fffe.N 2.L fffe.N 2.L
    fffe.N 2.L fffe.N 2.L fffe.N 102.M f0.N e10.L effe.N 2.L fffe.N 2.L fffe.N").map fun word =>
    (Text.hexNumber (word.takeWhile (· != '.')), .ofLetter (word.getLastD 'O'))

def direction (c : Char) : Direction :=
  (directions.get? c).getD .left

def isRightToLeft (label : List Char) : Bool :=
  label.any fun c => direction c == .right || direction c == .arabicNumber

/-- What a label of a host name with a right-to-left label must look like: it starts with a letter
of one of the two directions, has no character that only the other direction allows, ends, marks
apart, in a letter or number, and if it runs from right to left it does not mix the two kinds of
number. -/
def bidiRule (label : List Char) : Bool :=
  match label with
  | [] => true
  | first :: rest =>
    let ending := (label.reverse.map direction).find? (· != .mark)
    match direction first with
    | .left =>
      (rest.all fun c => match direction c with
        | .left | .europeanNumber | .neutral | .mark => true
        | _ => false) &&
      (ending == some .left || ending == some .europeanNumber)
    | .right =>
      (rest.all fun c => match direction c with
        | .right | .arabicNumber | .europeanNumber | .neutral | .mark => true
        | _ => false) &&
      (ending == some .right || ending == some .europeanNumber || ending == some .arabicNumber) &&
      !((rest.any fun c => direction c == .arabicNumber) &&
        (rest.any fun c => direction c == .europeanNumber))
    | _ => false

end UserAccounts.Host
