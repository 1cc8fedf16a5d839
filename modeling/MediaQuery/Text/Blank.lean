/-!
# White space of the Unicode property

The characters with the property `White_Space`, and trimming by them. ASCII white space is not
enough where an author's text is trimmed: a no-break space around a media attribute goes too.
-/

namespace MediaQuery.Blank

/-- Whether a character has the Unicode property `White_Space`; there are twenty-five. -/
def isBlank (c : Char) : Bool :=
  let n := c.toNat
  (0x09 ≤ n && n ≤ 0x0D) || n == 0x20 || n == 0x85 || n == 0xA0 || n == 0x1680 ||
    (0x2000 ≤ n && n ≤ 0x200A) || n == 0x2028 || n == 0x2029 || n == 0x202F || n == 0x205F ||
    n == 0x3000

/-- The text without its leading white space. -/
def trimLeft (cs : List Char) : List Char := cs.dropWhile isBlank

/-- The text without its trailing white space. -/
def trimRight (cs : List Char) : List Char := (cs.reverse.dropWhile isBlank).reverse

/-- The text without white space at either end. -/
def trim (cs : List Char) : List Char := trimRight (trimLeft cs)

/-- Whether the text is white space throughout. -/
def allBlank (cs : List Char) : Bool := cs.all isBlank

end MediaQuery.Blank
