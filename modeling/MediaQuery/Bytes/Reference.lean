import MediaQuery.Bytes.Condition
import MediaQuery.Bytes.Sheet
import MediaQuery.Css.Sheet
import MediaQuery.Files.Source

/-!
# References by byte

The references of a stylesheet are looked for with a search for text, which tells at which byte it
has found something, and read through their bytes; what is put together again has been cut at the
indices found. The directory of a sheet and the host of a reference are found by index as well.
-/

namespace MediaQuery.Bytes

open Css (RawBlock)

/-- The byte at which a word first stands in a text. -/
def find? (word : List Char) : List Char → Option Nat
  | [] => if word.isEmpty then some 0 else none
  | c :: cs =>
    if word.isPrefixOf (c :: cs) then some 0 else (find? word cs).map (· + c.utf8Size)

/-- The byte at which a character last stands in a text. -/
def lastIndexOf? (c : Char) : List Char → Option Nat
  | [] => none
  | d :: cs =>
    match lastIndexOf? c cs with
    | some i => some (i + d.utf8Size)
    | none => if d == c then some 0 else none

/-- The index behind a quote, if one stands at an index. -/
def skipQuote (bytes : List UInt8) (i : Nat) : Nat :=
  if standsAt bytes i '"' || standsAt bytes i '\'' then i + 1 else i

/-- The relative path at the start of the argument of `url(`, with the number of bytes up to behind
the closing parenthesis. -/
def relativeUrl (arg : List Char) : Checked (Option (List Char × Nat)) := do
  let bytes := utf8 arg
  let start := skipQuote bytes (skipWhile Ascii.isSpace bytes 0)
  let stop := skipWhile (fun c => !Css.endsPath c) bytes start
  let path := Blank.trimRight (← cut arg start stop)
  match (utf8 path).head? with
  | none => return none
  | some b =>
    if asChar b == '/' || asChar b == '#' || (utf8 path).length < 2 then return none
    else
      let closing := skipWhile Ascii.isSpace bytes (skipQuote bytes stop)
      if standsAt bytes closing ')' then return some (path, closing + 1) else return none

/-- A stylesheet with `dir` in front of its relative references. -/
def prepend (dir css : List Char) : Checked (List Char) :=
  match find? ['u', 'r', 'l', '('] css with
  | none => return css
  | some position => do
    let behind := position + 4
    let front ← textTo css behind
    let arg ← textFrom css behind
    match ← relativeUrl arg with
    | some (path, consumed) =>
      let rest ← textFrom arg consumed
      if rest.length < css.length then
        return front ++ (dir ++ (path ++ ')' :: (← prepend dir rest)))
      else .error .stuck
    | none =>
      if arg.length < css.length then return front ++ (← prepend dir arg) else .error .stuck
termination_by css.length

/-- A stylesheet whose relative references are read from the directory `dir`. -/
def relocate (css dir : List Char) : Checked (List Char) :=
  if dir.isEmpty then return css else prepend dir css

/-- The part of a reference up to and including its last slash. -/
def directory (href : List Char) : Checked (List Char) :=
  match lastIndexOf? '/' href with
  | none => return []
  | some slash => textTo href (slash + 1)

/-- Whether a reference begins with a scheme and two slashes, or with the slashes alone. -/
def namesHost (href : List Char) : Checked Bool := do
  let bytes := utf8 href
  let rest ← textFrom href (bytes.takeWhile fun b => (asChar b).isAlpha || asChar b == ':').length
  return ['/', '/'].isPrefixOf rest

/-! ## Sheets and files -/

/-- The block that a media query list guards, in a sheet that lies in `dir`. -/
def guarded (query body dir : List Char) : Checked MediaBlock := do
  return ⟨← readList query, String.ofList (← relocate body dir)⟩

/-- The guarded blocks of the stylesheet `text` found at `href`, loaded with the media attribute
`media`. -/
def ofSheet (text href : String) (media : Option String) : Checked (List MediaBlock) := do
  let dir ← directory href.toList
  match (← scan text.toList).1 with
  | [] =>
    match (media.map fun m => Blank.trim m.toList).filter (fun m => !m.isEmpty) with
    | some query => return [← guarded query text.toList dir]
    | none => return []
  | blocks => blocks.mapM fun block => guarded block.prelude block.body dir

/-- What a directory of files has for a reference. -/
def fetchFile (read : String → Except ReadError String) (root href : String) :
    Checked (Except Failure (Option String)) := do
  if ← namesHost href.toList then return .ok none
  else
    match read (Source.filePath root href) with
    | .ok text => return .ok (some text)
    | .error cause => return .error (.sheet href cause)

end MediaQuery.Bytes
