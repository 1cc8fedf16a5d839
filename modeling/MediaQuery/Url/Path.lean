import MediaQuery.Text.Ascii
import MediaQuery.Text.Split

/-!
# Paths

The segments of the path of a URL. A segment of one dot is dropped and one of two takes back the
one before it, also when the dots are percent-encoded. In the path of a file a drive letter, which
may be written with a bar for its colon, is never taken back.
-/

namespace MediaQuery.Url.Path

/-- Whether a segment is a letter with a colon or a bar. -/
def isDrive : List Char → Bool
  | [letter, mark] => letter.isAlpha && (mark == ':' || mark == '|')
  | _ => false

/-- Whether a segment is a letter with a colon. -/
def isNormalDrive (segment : List Char) : Bool := isDrive segment && segment.getLast? == some ':'

/-- A drive letter with a colon. -/
def normalDrive (segment : List Char) : List Char := segment.take 1 ++ [':']

/-- Whether a character ends a segment in one of the ways that each scheme knows. -/
def endsSegment (c : Char) : Bool := c == '/' || c == '\\' || c == '?' || c == '#'

/-- Whether a text begins with a drive letter that is a segment. -/
def startsWithDrive (cs : List Char) : Bool :=
  isDrive (cs.take 2) && (cs[2]?).all endsSegment

/-- The text of a segment with its encoded dots decoded. -/
def decodeDots : List Char → List Char
  | '%' :: '2' :: c :: cs => if c == 'e' || c == 'E' then '.' :: decodeDots cs else ['%']
  | c :: cs => c :: decodeDots cs
  | [] => []

/-- The segments without the last, unless that is a drive letter. -/
def shorten (segments : List (List Char)) : List (List Char) :=
  if (segments.getLast?).any isDrive then segments else segments.dropLast

/-- Segments behind others; an empty one stands for the end of a path that ends in dots. -/
def extend (isFile : Bool) (segments : List (List Char)) : List (List Char) → List (List Char)
  | [] => segments
  | segment :: rest =>
    let dots := decodeDots segment
    let segments :=
      if dots == ['.', '.'] then shorten segments ++ (if rest.isEmpty then [[]] else [])
      else if dots == ['.'] then segments ++ (if rest.isEmpty then [[]] else [])
      else if isFile && segments.isEmpty && isDrive segment then [normalDrive segment]
      else segments ++ [segment]
    extend isFile segments rest

/-- The segments of a file's path without the empty ones in front; one segment stays. -/
def dropEmpty : List (List Char) → List (List Char)
  | [] :: segment :: rest => dropEmpty (segment :: rest)
  | segments => segments

end MediaQuery.Url.Path
