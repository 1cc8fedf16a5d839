import MediaQuery.Text.CompositionTable

/-!
# Canonical composition

One form for texts that are written alike. A character with marks is first taken apart, the marks
are put in the order of their classes, and then all that can be joined is joined again.
-/

namespace MediaQuery.Composition

/-- The characters of a word of code points, with dots between them. -/
def charactersOf (word : List Char) : List Char :=
  if word.isEmpty then []
  else (Split.splitOn (· == '.') word).map fun digits => Char.ofNat (RangeTable.hexadecimal digits)

/-- The class of a mark; zero for a character that is none. -/
def markClass (c : Char) : Nat :=
  if c.toNat < 0x300 then 0 else ((markClasses.word? c).map RangeTable.hexadecimal).getD 0

/-! ## Syllables of Hangul -/

/-- The first of the leading, of the vowel and of the trailing letters, and of the syllables. One
before the trailing letters stands for none. -/
def firstLead : Nat := 0x1100
def firstVowel : Nat := 0x1161
def beforeTrail : Nat := 0x11A7
def firstSyllable : Nat := 0xAC00

/-- The numbers of the leading letters, of the vowels, and of the trailing letters with none among
them. -/
def leads : Nat := 19
def vowels : Nat := 21
def trails : Nat := 28

/-- Takes a syllable apart. -/
def splitSyllable? (c : Char) : Option (List Char) :=
  let index := c.toNat - firstSyllable
  if c.toNat < firstSyllable || leads * vowels * trails ≤ index then none
  else
    let trail := index % trails
    some (Char.ofNat (firstLead + index / (vowels * trails)) ::
      Char.ofNat (firstVowel + index % (vowels * trails) / trails) ::
      if trail == 0 then [] else [Char.ofNat (beforeTrail + trail)])

/-- Joins two letters, or a syllable and a trailing letter. -/
def joinSyllable? (a b : Char) : Option Char :=
  let lead := a.toNat - firstLead
  let vowel := b.toNat - firstVowel
  let syllable := a.toNat - firstSyllable
  let trail := b.toNat - beforeTrail
  if firstLead ≤ a.toNat && lead < leads && firstVowel ≤ b.toNat && vowel < vowels then
    some (Char.ofNat (firstSyllable + (lead * vowels + vowel) * trails))
  else if firstSyllable ≤ a.toNat && syllable < leads * vowels * trails && syllable % trails == 0 &&
      beforeTrail < b.toNat && trail < trails then
    some (Char.ofNat (a.toNat + trail))
  else none

/-! ## Taking apart -/

/-- How often a composite can be taken apart at most. -/
def depth : Nat := 4

/-- Takes a character apart. -/
def split : (depth : Nat) → Char → List Char
  | 0, c => [c]
  | depth + 1, c =>
    match splitSyllable? c, (composites.word? c).map charactersOf with
    | some letters, _ => letters
    | none, some [a, b] => split depth a ++ [b]
    | none, _ => [c]

/-- Puts a mark in front of those behind it that are of a lower class; the text is reversed. -/
def insertMark (c : Char) : List Char → List Char
  | [] => [c]
  | d :: ds => if markClass c < markClass d then d :: insertMark c ds else c :: d :: ds

/-- Puts marks in the order of their classes. -/
def sortMarks (cs : List Char) : List Char :=
  let place := fun sorted c => if markClass c == 0 then c :: sorted else insertMark c sorted
  (cs.foldl place []).reverse

/-! ## Joining -/

/-- Joins two characters. -/
def join? (a b : Char) : Option Char :=
  match joinSyllable? a b with
  | some c => some c
  | none => (composites.entries.find? fun e => charactersOf e.word == [a, b]).map fun e =>
    Char.ofNat e.first

/-- Joins marks with the base that they belong to. A mark is kept from the base by one of its own
class or of a higher one that stays between them. -/
def joinMarks (base : Char) (between : List Char) : List Char → List Char
  | [] => base :: between.reverse
  | c :: cs =>
    let reaches := (between.head?).all fun last => markClass last < markClass c
    match if reaches then join? base c else none with
    | some joined => joinMarks joined between cs
    | none =>
      if markClass c == 0 then base :: (between.reverse ++ joinMarks c [] cs)
      else joinMarks base (c :: between) cs

/-- Joins all that can be joined; marks without a base stay as they are. -/
def joinAll : List Char → List Char
  | [] => []
  | c :: cs => if markClass c == 0 then joinMarks c [] cs else c :: joinAll cs

/-- The composed form of a text. -/
def compose (cs : List Char) : List Char := joinAll (sortMarks (cs.flatMap (split depth)))

end MediaQuery.Composition
