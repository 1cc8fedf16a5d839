import MediaQuery.Url.Domain.Label
import MediaQuery.Url.Punycode

/-!
# Domains in ASCII

The one form in which a domain is compared: each character in what it stands for, and each label
that is not of ASCII alone written in Punycode behind a mark. Labels that are given in Punycode
must be the writing of a label that could have been given itself. Nothing is said about the length
of labels or about hyphens, and empty labels stay.
-/

namespace MediaQuery.Url.Domain

/-- What a label in Punycode begins with. -/
def codeMark : List Char := "xn--".toList

/-- Whether a text is of ASCII alone. -/
def isAscii (cs : List Char) : Bool := cs.all fun c => c.toNat < 0x80

/-- A label, as it is meant and as it is written in ASCII. -/
structure Label where
  meant : List Char
  written : List Char
deriving DecidableEq, Repr

/-- The label behind the mark of Punycode. -/
def Label.ofMarked? (code : List Char) : Option Label :=
  match Punycode.decode? code with
  | none => none
  | some meant =>
    if isAscii meant || codeMark.isPrefixOf meant || Composition.compose meant != meant ||
      !labelObeys meant then none
    else some ⟨meant, codeMark ++ code⟩

/-- Reads a label. -/
def Label.ofText? (text : List Char) : Option Label :=
  if codeMark.isPrefixOf text then Label.ofMarked? (text.drop codeMark.length)
  else if isAscii text then some ⟨text, text⟩
  else if labelObeys text then some ⟨text, codeMark ++ Punycode.encode text⟩
  else none

/-- Whether the directions in the labels of a domain go together; that matters if any of them is
written from right to left. -/
def labelsObey (labels : List Label) : Bool :=
  !(labels.any fun l => l.meant.any isRightToLeft) || labels.all fun l => directionsObey l.meant

/-- The form of a domain in ASCII. -/
def toAscii? (domain : List Char) : Option (List Char) := do
  let text ← mapped? domain
  let labels ← (Split.splitOn (· == '.') text).mapM Label.ofText?
  if labelsObey labels then some (Split.join '.' (labels.map Label.written)) else none

end MediaQuery.Url.Domain
