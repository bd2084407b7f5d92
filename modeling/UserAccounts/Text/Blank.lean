/-
# White space

The code points that Unicode calls White_Space, and the two questions asked of
them: is a text nothing but blanks (`allBlank`), and what is left of it without
the blanks at its ends (`trimmed`).

Key definitions: `isBlank`, `allBlank`, `trimmed`.
-/

namespace UserAccounts.Text

/-- A code point with the property White_Space. -/
def isBlank (c : Char) : Bool :=
  let n := c.toNat
  (9 ≤ n && n ≤ 13) || n == 0x20 || n == 0x85 || n == 0xA0 || n == 0x1680 ||
    (0x2000 ≤ n && n ≤ 0x200A) || n == 0x2028 || n == 0x2029 || n == 0x202F ||
    n == 0x205F || n == 0x3000

/-- Nothing but blanks; in particular the empty text. -/
def allBlank (s : String) : Bool :=
  s.toList.all isBlank

def trimmedChars (cs : List Char) : List Char :=
  ((cs.dropWhile isBlank).reverse.dropWhile isBlank).reverse

def trimmed (s : String) : String :=
  String.ofList (trimmedChars s.toList)

end UserAccounts.Text
