import MediaQuery.Bytes.Basic
import MediaQuery.Condition.Read

/-!
# Reading media query lists by byte

The entries of a list are cut out of it between the bytes of its commas. In each of them the bounds
are looked for behind the bytes of its opening parentheses; the digits of a length are taken for a
text and cut off at their second point.
-/

namespace MediaQuery.Bytes

/-- The byte at which a character stands in a text, `n` other places of it left out. -/
def indexOf? (c : Char) : (n : Nat) → List Char → Option Nat
  | _, [] => none
  | n, d :: cs =>
    if d == c then
      match n with
      | 0 => some 0
      | n + 1 => (indexOf? c n cs).map (· + d.utf8Size)
    else (indexOf? c n cs).map (· + d.utf8Size)

/-- The number that a run of digits and points begins with. -/
def leadingFloat (run : List Char) : Checked (Option Float) := do
  match indexOf? '.' 1 run with
  | some stop => return Decimal.unsigned? (← textTo run stop)
  | none => return Decimal.unsigned? run

/-- The unit that stands at an index. -/
def unitAt (bytes : List UInt8) (i : Nat) : Option LengthUnit :=
  if spells bytes i LengthUnit.px.text.toList then some .px
  else if spells bytes i LengthUnit.em.text.toList then some .em
  else none

/-- Whether a character stands at an index. -/
def standsAt (bytes : List UInt8) (i : Nat) (c : Char) : Bool := bytes[i]?.map asChar == some c

/-- The length that stands at an index, up to a closing parenthesis. -/
def lengthAt (bytes : List UInt8) (i : Nat) : Checked (Option WidthBound) := do
  let stop := skipWhile isNumeral bytes i
  let number ← decode (← slice bytes i stop)
  match ← leadingFloat number, unitAt bytes stop with
  | some value, some unit =>
    if standsAt bytes (skipWhile Ascii.isSpace bytes (stop + unit.text.toList.length)) ')' then
      return some ⟨value, unit⟩
    else return none
  | _, _ => return none

/-- The bound for a feature that stands at an index. -/
def widthBoundAt (bytes : List UInt8) (i : Nat) (feature : List Char) :
    Checked (Option WidthBound) :=
  let name := skipWhile Ascii.isSpace bytes i
  if spells bytes name feature then
    let colon := skipWhile Ascii.isSpace bytes (name + feature.length)
    if standsAt bytes colon ':' then lengthAt bytes (skipWhile Ascii.isSpace bytes (colon + 1))
    else return none
  else return none

/-- The bound for a feature at the first parenthesis that gives one; `rest` are the bytes from an
index on. -/
def findBoundFrom (bytes : List UInt8) (feature : List Char) :
    (i : Nat) → (rest : List UInt8) → Checked (Option WidthBound)
  | _, [] => return none
  | i, b :: rest => do
    if asChar b == '(' then
      match ← widthBoundAt bytes (i + 1) feature with
      | some bound => return some bound
      | none => findBoundFrom bytes feature (i + 1) rest
    else findBoundFrom bytes feature (i + 1) rest

/-- The bound that an entry gives for a feature. -/
def findBound (entry feature : List Char) : Checked (Option WidthBound) :=
  findBoundFrom (utf8 entry) feature 0 (utf8 entry)

/-- The condition that one entry of a media query list states. -/
def read (entry : List Char) : Checked Condition := do
  let min ← findBound entry "min-width".toList
  let max ← findBound entry "max-width".toList
  return {
    mediaType := String.ofList (mediaTypeOf entry)
    hasConstraint := min.isSome || max.isSome
    minWidth := min
    maxWidth := max }

/-- The parts of a text between the separators outside parentheses, from the part on that begins at
byte `start`; `rest` are the bytes from index `i` on, with `depth` parentheses open there. -/
def splitFrom (text : List Char) (separator : Char) :
    (rest : List UInt8) → (i start depth : Nat) → Checked (List (List Char))
  | [], _, start, _ => return [← textFrom text start]
  | b :: rest, i, start, depth => do
    if asChar b == '(' then splitFrom text separator rest (i + 1) start (depth + 1)
    else if asChar b == ')' then splitFrom text separator rest (i + 1) start (depth - 1)
    else if asChar b == separator && depth == 0 then
      let part ← cut text start i
      return part :: (← splitFrom text separator rest (i + 1) (i + 1) depth)
    else splitFrom text separator rest (i + 1) start depth

/-- The parts of a text between the separators that stand outside parentheses. -/
def split (separator : Char) (text : List Char) : Checked (List (List Char)) :=
  splitFrom text separator (utf8 text) 0 0 0

/-- The conditions of a media query list. -/
def readList (text : List Char) : Checked (List Condition) := do
  match (← split ',' text).filter (fun entry => !Blank.allBlank entry) with
  | [] => return [.all]
  | entries => entries.mapM read

end MediaQuery.Bytes
