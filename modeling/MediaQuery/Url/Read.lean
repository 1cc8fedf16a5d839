import MediaQuery.Url.Basic
import MediaQuery.Url.Path

/-!
# Reading URLs

A URL is read by itself or against a base, as the browsers have agreed to. White space at its ends
and line ends within it do not count. Behind the scheme of the web any number of slashes, of either
kind, may stand, and the same scheme as that of the base may be repeated before a relative URL.
-/

namespace MediaQuery.Url

/-- The text of a URL without what does not count in it: control characters and spaces at its ends,
tabs and line ends anywhere. -/
def clean (cs : List Char) : List Char :=
  let isEdge := fun (c : Char) => decide (c.toNat ≤ 0x20)
  let trimmed := ((cs.dropWhile isEdge).reverse.dropWhile isEdge).reverse
  trimmed.filter fun c => !(c == '\t' || c == '\n' || c == '\r')

/-- Whether a character can stand in a scheme. -/
def isSchemeChar (c : Char) : Bool := c.isAlphanum || c == '+' || c == '-' || c == '.'

/-- Splits a text behind its scheme, which is written small. -/
def splitScheme? (cs : List Char) : Option (List Char × List Char) :=
  match cs, cs.dropWhile isSchemeChar with
  | first :: _, ':' :: rest =>
    if first.isAlpha then some (Ascii.lower (cs.takeWhile isSchemeChar), rest) else none
  | _, _ => none

/-- Whether a character is a slash of either kind. -/
def isSlash (c : Char) : Bool := c == '/' || c == '\\'

/-- Whether a character parts what the URLs of a scheme are made of. -/
def isSeparator (kind : SchemeKind) (c : Char) : Bool := c == '/' || kind.isSpecial && c == '\\'

/-- Whether a character ends the authority of a URL. -/
def endsAuthority (kind : SchemeKind) (c : Char) : Bool :=
  isSeparator kind c || c == '?' || c == '#'

/-- The text of the path at the front of a text. -/
def pathText (cs : List Char) : List Char := cs.takeWhile fun c => c != '?' && c != '#'

/-! ## Authorities -/

/-- Splits a text at its last `@`, if it has one. -/
def splitCredentials (cs : List Char) : Option (List Char) × List Char :=
  let behind := (cs.reverse.takeWhile (· != '@')).reverse
  if behind.length < cs.length then (some (cs.take (cs.length - behind.length - 1)), behind)
  else (none, cs)

/-- Splits a text before its first colon outside brackets. -/
def splitHost : (inBrackets : Bool) → List Char → List Char × List Char
  | _, [] => ([], [])
  | inBrackets, c :: cs =>
    if c == ':' && !inBrackets then ([], c :: cs)
    else
      let (host, rest) := splitHost (c == '[' || inBrackets && c != ']') cs
      (c :: host, rest)

/-- Reads the number behind a host, with the rest of the text. No digits are no number. -/
def readNumber? (kind : SchemeKind) (cs : List Char) : Option (Option Nat × List Char) :=
  let digits := cs.takeWhile Char.isDigit
  let rest := cs.dropWhile Char.isDigit
  match Address.value? 10 digits with
  | none => none
  | some number =>
    if 65535 < number || !rest.head?.all Path.endsSegment then none
    else if digits.isEmpty || kind == .web number then some (none, rest)
    else some (some number, rest)

/-- Reads what follows a host: nothing, or a colon and a number. -/
def readHostEnd? (kind : SchemeKind) : List Char → Option (Option Nat × List Char)
  | ':' :: cs => readNumber? kind cs
  | cs => some (none, cs)

/-- Reads a host. A host outside the web may be empty, if no number follows it. -/
def readHost? (kind : SchemeKind) (host rest : List Char) : Option (Option Host) :=
  match kind with
  | .other =>
    if host.isEmpty then if rest.head? == some ':' then none else some none
    else (Host.ofName? host).map some
  | _ => if host.isEmpty then none else (Host.ofDomain? host).map some

/-- Whether credentials demand that a host is there. -/
def needHost : Option (List Char) → Bool
  | none | some [] | some [':'] => false
  | some _ => true

/-- Reads the authority at the front of a text, with the rest of the text. -/
def readAuthority? (kind : SchemeKind) (cs : List Char) : Option (Authority × List Char) := do
  let body := cs.takeWhile fun c => !endsAuthority kind c
  let rest := cs.dropWhile fun c => !endsAuthority kind c
  let (credentials, location) := splitCredentials body
  if credentials == some [] && location.isEmpty && !rest.isEmpty then none
  else
    let (hostText, behind) := splitHost false location
    let host ← readHost? kind hostText behind
    let (portNumber, behind) ← readHostEnd? kind behind
    if host.isNone && needHost credentials then none else some (⟨host, portNumber⟩, behind ++ rest)

/-- The segments of a path behind the authority. -/
def rootedSegments (kind : SchemeKind) (cs : List Char) : List (List Char) :=
  let text := pathText cs
  let text := if text.head?.any (isSeparator kind) then text.tail else text
  Path.extend (kind == .file) [] (Split.splitOn (isSeparator kind) text)

/-- Reads a URL from what follows the slashes in front of its authority. -/
def readLocated? (scheme cs : List Char) : Option Url := do
  let kind := SchemeKind.ofName scheme
  let (authority, rest) ← readAuthority? kind cs
  some ⟨scheme, authority, some (rootedSegments kind rest)⟩

/-! ## Files -/

/-- The name of the machine itself. -/
def localName : List Char := "localhost".toList

/-- Reads the host of a file, which is none for the machine itself. -/
def readFileHost? (host : List Char) : Option (Option Host) :=
  if host.isEmpty then some none
  else (Host.ofDomain? host).map fun h => if h == .name localName then none else some h

/-- A file on a host. The machine itself has drives, another host has not. -/
def ofFile (host : Option Host) (text : List Char) : Url :=
  let segments := rootedSegments .file text
  let host := if (segments.head?).any Path.isNormalDrive then none else host
  ⟨"file".toList, ⟨host, none⟩, some (Path.dropEmpty segments)⟩

/-- Reads a file from what follows the two slashes in front of its host. -/
def readRemoteFile? (cs : List Char) : Option Url :=
  let host := cs.takeWhile fun c => !Path.endsSegment c
  if Path.isDrive host then some (ofFile none cs)
  else (readFileHost? host).map fun h => ofFile h (cs.dropWhile fun c => !Path.endsSegment c)

/-- A file whose path is given from the root, on the host or the drive of a base. -/
def ofRootedFile (base : Option Url) (cs : List Char) : Url :=
  let segments := rootedSegments .file cs
  let start := (base.map Url.segments).getD []
  if Path.startsWithDrive cs.tail then ⟨"file".toList, .none, some (Path.dropEmpty segments)⟩
  else
    match start.head?.filter Path.isNormalDrive with
    | some drive =>
      let segments := Path.extend true [drive] (Split.splitOn isSlash (pathText cs).tail)
      ⟨"file".toList, .none, some segments⟩
    | none =>
      ⟨"file".toList, (base.map Url.authority).getD .none, some (Path.dropEmpty segments)⟩

/-- A URL whose path is given from that of a base. -/
def ofRelative (base : Url) (cs : List Char) : Url :=
  let text := pathText cs
  if text.isEmpty then base
  else
    let start := Path.shorten base.segments
    let segments :=
      Path.extend (base.kind == .file) start (Split.splitOn (isSeparator base.kind) text)
    { base with path := some segments }

/-- Reads a file from what follows its scheme, against the base if that is a file too. -/
def readFile? (base : Option Url) (cs : List Char) : Option Url :=
  match cs with
  | a :: b :: rest =>
    if isSlash a && isSlash b then readRemoteFile? rest
    else if isSlash a then some (ofRootedFile base cs)
    else some (readNear base cs)
  | [a] => some (if isSlash a then ofRootedFile base cs else readNear base cs)
  | [] => some (readNear base cs)
where
  /-- A file whose path is not given from the root. -/
  readNear (base : Option Url) (cs : List Char) : Url :=
    match base with
    | some b => if Path.startsWithDrive cs then ofFile none cs else ofRelative b cs
    | none => ofFile none cs

/-! ## Relative and absolute -/

/-- Reads a URL that repeats nothing of a base's scheme, against that base. -/
def readRelative? (base : Url) (cs : List Char) : Option Url :=
  match cs with
  | '/' :: '/' :: rest => readLocated? base.scheme rest
  | first :: rest =>
    if !isSlash first then some (ofRelative base cs)
    else if rest.head?.any isSlash then readLocated? base.scheme (cs.dropWhile isSlash)
    else some { base with path := some (rootedSegments base.kind cs) }
  | [] => some base

/-- Reads a URL from what follows its scheme. -/
def readAfterScheme? (base : Option Url) (scheme cs : List Char) : Option Url :=
  match SchemeKind.ofName scheme with
  | .file => readFile? (base.filter (·.kind == .file)) cs
  | .web _ =>
    match base.filter fun b => b.scheme == scheme && ((cs.takeWhile isSlash).length < 2 : Bool) with
    | some b => readRelative? b cs
    | none => readLocated? scheme (cs.dropWhile isSlash)
  | .other =>
    match cs with
    | '/' :: '/' :: rest => readLocated? scheme rest
    | '/' :: _ => some ⟨scheme, .none, some (rootedSegments .other cs)⟩
    | _ => some ⟨scheme, .none, none⟩

/-- Reads a URL without a scheme against a base. -/
def readWithoutScheme? (base : Url) (cs : List Char) : Option Url :=
  if cs.head? == some '#' then some base
  else if base.path.isNone then none
  else if base.kind == .file then readFile? (some base) cs
  else readRelative? base cs

/-- Reads a URL, against a base if there is one. -/
def readAgainst? (base : Option Url) (text : List Char) : Option Url :=
  let cs := clean text
  match splitScheme? cs with
  | some (scheme, rest) => readAfterScheme? base scheme rest
  | none => base.bind fun b => readWithoutScheme? b cs

/-- Reads a URL that stands by itself. -/
def read? (text : List Char) : Option Url := readAgainst? none text

/-- Reads a URL that may be relative to another. -/
def join? (base : Url) (text : List Char) : Option Url := readAgainst? (some base) text

end MediaQuery.Url
