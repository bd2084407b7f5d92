/-
# Media types

The media type of a request's body: a type and a subtype with a slash between
them, of which the subtype may end in a plus sign and a suffix, and parameters
behind semicolons. Letters are compared without case.

Key definitions: `MediaType`, `MediaType.read`, `MediaType.isJson`.
-/

namespace UserAccounts.Http

structure MediaType where
  type : List Char
  subtype : List Char
  suffix : Option (List Char)
deriving DecidableEq, Repr

namespace MediaType

def isTokenChar (c : Char) : Bool :=
  c.isAlphanum || "!#$%&'*+-.^_`|~".toList.contains c

/-- Splits a subtype at its last plus sign, if that is not its first character. -/
def splitSuffix (cs : List Char) : List Char × Option (List Char) :=
  match cs.reverse.span (· != '+') with
  | (suffix, _ :: rest) =>
    if rest.isEmpty then (cs, none) else (rest.reverse, some suffix.reverse)
  | (_, []) => (cs, none)

/-- The rest behind a quoted value, of which at least one character is wanted before the quote
counts as its end. -/
def skipQuoted : Bool → List Char → Option (List Char)
  | _, [] => none
  | started, c :: cs =>
    if c == '"' && started then some cs
    else if 31 < c.toNat && c.toNat < 127 then skipQuoted true cs
    else none

/-- The rest behind the semicolon that follows a quoted value. -/
def skipToSemicolon : List Char → Option (List Char)
  | [] => some []
  | ';' :: cs => some cs
  | ' ' :: cs => skipToSemicolon cs
  | _ => none

/-- The rest behind a value and the semicolon that follows it. -/
def skipValue (cs : List Char) : Option (List Char) :=
  match cs with
  | '"' :: quoted => (skipQuoted false quoted).bind skipToSemicolon
  | _ =>
    match cs.dropWhile isTokenChar with
    | [] => some []
    | ';' :: rest => if (cs.takeWhile isTokenChar).isEmpty then none else some rest
    | _ => none

def skipParameter (cs : List Char) : Option (List Char) :=
  match cs.dropWhile isTokenChar with
  | '=' :: value => if (cs.takeWhile isTokenChar).isEmpty then none else skipValue value
  | _ => none

/-- Whether a text is a list of parameters; `fuel` bounds their number. -/
def areParameters : Nat → List Char → Bool
  | 0, cs => cs.isEmpty
  | fuel + 1, cs =>
    match cs.dropWhile (· == ' ') with
    | [] => true
    | cs =>
      match skipParameter cs with
      | some rest => areParameters fuel rest
      | none => false

/-- Reads a media type; it counts as none if its parameters are not well formed. -/
def read (cs : List Char) : Option MediaType :=
  let type := cs.takeWhile isTokenChar
  match cs.dropWhile isTokenChar with
  | '/' :: behind =>
    let whole := behind.takeWhile isTokenChar
    let (subtype, suffix) := splitSuffix whole
    let found : MediaType := ⟨type, subtype, suffix⟩
    if type.isEmpty then none
    else
      match behind.dropWhile isTokenChar with
      | [] => some found
      | c :: parameters =>
        if c == ';' && !whole.isEmpty && areParameters cs.length parameters then
          some found
        else none
  | _ => none

def isNamed (name : String) (cs : List Char) : Bool :=
  cs.map Char.toLower == name.toList

def isJson (m : MediaType) : Bool :=
  isNamed "application" m.type &&
    (isNamed "json" m.subtype || m.suffix.any (isNamed "json"))

end MediaType

end UserAccounts.Http
