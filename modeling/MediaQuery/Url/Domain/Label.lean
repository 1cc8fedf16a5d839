import MediaQuery.Text.Composition
import MediaQuery.Url.Domain.LabelTable
import MediaQuery.Url.Domain.Mapping

/-!
# Labels of domains

What the labels of a domain, the texts between its dots, have to obey when they are not of ASCII
alone: no label begins with a mark, the characters that only join others stand where there is
something to join, and the writing directions in a label go together.
-/

namespace MediaQuery.Url.Domain

/-! ## Joiners -/

/-- The class of the marks that join consonants. -/
def viramaClass : Nat := 9

/-- Whether a character behind others, the nearest first, has one that joins consonants before it.
-/
def followsVirama (before : List Char) : Bool :=
  (before.head?).any fun c => Composition.markClass c == viramaClass

/-- Whether the first of some characters that does not let others join through it joins a
neighbour. -/
def joins (types : List (List Char)) (cs : List Char) : Bool :=
  let joining := cs.map fun c => (joiningTypes.word? c).getD []
  ((joining.dropWhile (· == ['T'])).head?).any types.contains

/-- Whether the joiners of a text stand where they may; `before` is what precedes it, the nearest
first. -/
def joinersObey : (before : List Char) → List Char → Bool
  | _, [] => true
  | before, c :: cs =>
    let here :=
      if c == '\u200d' then followsVirama before
      else if c == '\u200c' then
        followsVirama before || joins [['L'], ['D']] before && joins [['R'], ['D']] cs
      else true
    here && joinersObey (c :: before) cs

/-! ## Directions -/

/-- The class of a character by the direction in which it is written. -/
def direction (c : Char) : String := ((directions.word? c).map String.ofList).getD "L"

/-- Whether a character is written from right to left. -/
def isRightToLeft (c : Char) : Bool := ["R", "AL", "AN"].contains (direction c)

/-- Whether the directions in a label go together. -/
def directionsObey (label : List Char) : Bool :=
  let classes := label.map direction
  let ending := (classes.reverse.dropWhile (· == "NSM")).head?.getD ""
  match classes with
  | [] => true
  | first :: _ =>
    if first == "R" || first == "AL" then
      classes.all ["R", "AL", "AN", "EN", "ES", "CS", "ET", "ON", "BN", "NSM"].contains &&
        ["R", "AL", "EN", "AN"].contains ending && !(classes.contains "EN" && classes.contains "AN")
    else
      first == "L" && classes.all ["L", "EN", "ES", "CS", "ET", "ON", "BN", "NSM"].contains &&
        ["L", "EN"].contains ending

/-! ## Labels -/

/-- Whether a label may stand in a domain, its directions set aside. -/
def labelObeys (label : List Char) : Bool :=
  label.all isPlain && !(label.head?).any marks.contains && joinersObey [] label

end MediaQuery.Url.Domain
