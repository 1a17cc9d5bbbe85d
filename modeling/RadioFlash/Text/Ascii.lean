/-!
# ASCII case and blanks

Names given by users (procedure names, reset lines, file extensions) are compared after
lower-casing their ASCII letters; every other character stays as it is. For the names this
library accepts, none of which contains a `k`, that gives the same answers as full Unicode
lower-casing, whose only non-ASCII letter with an ASCII lower case is the Kelvin sign.

Pieces of user text are trimmed of the characters Unicode calls white space, not only the ASCII
ones.
-/

namespace RadioFlash.Text

/-- Lower-case the ASCII letters of a text and keep every other character. -/
def asciiLower (s : String) : String :=
  s.map Char.toLower

/-- Upper-case the ASCII letters of a text and keep every other character. -/
def asciiUpper (s : String) : String :=
  s.map Char.toUpper

/-- The characters with the Unicode White_Space property. -/
def isBlank (c : Char) : Bool :=
  let n := c.toNat
  (0x09 ≤ n && n ≤ 0x0D) || n == 0x20 || n == 0x85 || n == 0xA0 || n == 0x1680 ||
    (0x2000 ≤ n && n ≤ 0x200A) || n == 0x2028 || n == 0x2029 || n == 0x202F || n == 0x205F ||
    n == 0x3000

/-- Drop white space from both ends of a text. -/
def trimBlanks (s : String) : String :=
  String.ofList ((s.toList.dropWhile isBlank).reverse.dropWhile isBlank).reverse

end RadioFlash.Text
