import MediaQuery.Text.Ascii
import MediaQuery.Text.Split

/-!
# Tables over ranges of characters

Properties of characters, as the standards give them: for ranges of code points, a word each. A
table is written as text, its entries parted by spaces. An entry is a code point or two with a
hyphen between them, in hexadecimal, and may have a colon and a word behind it.
-/

namespace MediaQuery

/-- The characters from one code point to another, and the word for them. -/
structure RangeTable.Entry where
  first : Nat
  last : Nat
  word : List Char
deriving DecidableEq, Repr

/-- A table of ranges. -/
structure RangeTable where
  entries : List RangeTable.Entry

namespace RangeTable

/-- The value of hexadecimal digits; anything else counts as zero. -/
def hexadecimal (digits : List Char) : Nat :=
  digits.foldl (fun total c => 16 * total + (Ascii.hexValue c).getD 0) 0

/-- Whether the characters of an entry hold a character. -/
def Entry.contains (e : Entry) (c : Char) : Bool := e.first ≤ c.toNat && c.toNat ≤ e.last

/-- Reads an entry. -/
def Entry.ofText (text : List Char) : Entry :=
  let range := text.takeWhile (· != ':')
  let first := range.takeWhile (· != '-')
  let last := (range.dropWhile (· != '-')).drop 1
  ⟨hexadecimal first, hexadecimal (if last.isEmpty then first else last),
    (text.dropWhile (· != ':')).drop 1⟩

/-- Reads a table from the lines that it is written in. -/
def ofLines (lines : List String) : RangeTable :=
  ⟨lines.flatMap fun line =>
    ((Split.splitOn (· == ' ') line.toList).filter (!·.isEmpty)).map Entry.ofText⟩

/-- The entry of a character. -/
def find? (t : RangeTable) (c : Char) : Option Entry := t.entries.find? (·.contains c)

/-- Whether a character has an entry. -/
def contains (t : RangeTable) (c : Char) : Bool := t.entries.any (·.contains c)

/-- The word for a character. -/
def word? (t : RangeTable) (c : Char) : Option (List Char) := (t.find? c).map Entry.word

end RangeTable

end MediaQuery
