import MediaQuery.Condition.Basic
import MediaQuery.Decimal.Read
import MediaQuery.Text.Ascii
import MediaQuery.Text.Blank
import MediaQuery.Text.Split

/-!
# Reading media query lists

A media query list is split at its commas, except those inside parentheses, and each entry that is
not blank becomes a condition. Reading cannot fail: what is not understood puts no bound on the
width, and a list without an entry is the condition that always holds.

A bound is read at the first parenthesis behind which the whole of `feature: number unit )` stands,
so junk before it does not hide it. The media type is the first word before the first parenthesis,
with a leading `only` skipped.
-/

namespace MediaQuery

/-- The unit at the start of a text, with what follows it. -/
def LengthUnit.read? (cs : List Char) : Option (LengthUnit × List Char) :=
  match Ascii.dropWord? ['p', 'x'] cs with
  | some rest => some (px, rest)
  | none => (Ascii.dropWord? ['e', 'm'] cs).map fun rest => (em, rest)

/-- Whether a character belongs to the number of a length. -/
def isNumeral (c : Char) : Bool := c.isDigit || c == '.'

/-- The part of a run of digits and points before its second point. -/
def beforeSecondPoint (run : List Char) : List Char :=
  run.takeWhile (· != '.') ++
    match run.dropWhile (· != '.') with
    | [] => []
    | point :: rest => point :: rest.takeWhile (· != '.')

/-- The text behind `word`, with the ASCII white space around it. -/
def dropSpaced? (word cs : List Char) : Option (List Char) :=
  (Ascii.dropWord? word (Ascii.skipSpace cs)).map Ascii.skipSpace

/-- The bound that a text gives for a feature, the text starting behind a parenthesis. -/
def WidthBound.read? (feature cs : List Char) : Option WidthBound := do
  let colon ← dropSpaced? feature cs
  let number ← dropSpaced? [':'] colon
  let value ← Decimal.unsigned? (beforeSecondPoint (number.takeWhile isNumeral))
  let (unit, rest) ← LengthUnit.read? (number.dropWhile isNumeral)
  match Ascii.skipSpace rest with
  | ')' :: _ => some ⟨value, unit⟩
  | _ => none

/-- The bound that a text gives for a feature, at the first parenthesis that gives one. -/
def findBound (feature : List Char) : List Char → Option WidthBound
  | [] => none
  | c :: cs =>
    if c == '(' then (WidthBound.read? feature cs).or (findBound feature cs)
    else findBound feature cs

/-- The maximal runs of ASCII letters of a text, in order. -/
def letterRuns : List Char → List (List Char)
  | [] => []
  | c :: cs =>
    if c.isAlpha then
      match cs, letterRuns cs with
      | d :: _, word :: words => if d.isAlpha then (c :: word) :: words else [c] :: word :: words
      | _, words => [c] :: words
    else letterRuns cs

/-- The media type of an entry: its first word, but the one after a leading `only`, if there is
one. -/
def mediaTypeOf (cs : List Char) : List Char :=
  match letterRuns (cs.takeWhile (· != '(')) with
  | [] => ['a', 'l', 'l']
  | [word] => Ascii.lower word
  | first :: second :: _ =>
    Ascii.lower (if Ascii.sameLetters first ['o', 'n', 'l', 'y'] then second else first)

namespace Condition

open Split (consFirst)

/-- The condition that one entry of a media query list states. -/
def read (cs : List Char) : Condition :=
  let min := findBound "min-width".toList cs
  let max := findBound "max-width".toList cs
  { mediaType := String.ofList (mediaTypeOf cs)
    hasConstraint := min.isSome || max.isSome
    minWidth := min
    maxWidth := max }

/-- The parts of a text between the separators that stand outside parentheses; `depth` parentheses
are open at its start. A closing parenthesis that matches nothing is ignored. -/
def splitFrom (separator : Char) (depth : Nat) : List Char → List (List Char)
  | [] => [[]]
  | c :: cs =>
    if c == '(' then consFirst c (splitFrom separator (depth + 1) cs)
    else if c == ')' then consFirst c (splitFrom separator (depth - 1) cs)
    else if c == separator && depth == 0 then [] :: splitFrom separator 0 cs
    else consFirst c (splitFrom separator depth cs)

/-- The parts of a text between the separators that stand outside parentheses. -/
def split (separator : Char) (cs : List Char) : List (List Char) := splitFrom separator 0 cs

/-- The conditions of a media query list; never none. -/
def readList (cs : List Char) : List Condition :=
  match (split ',' cs).filter (fun entry => !Blank.allBlank entry) with
  | [] => [all]
  | entries => entries.map read

end Condition

end MediaQuery
