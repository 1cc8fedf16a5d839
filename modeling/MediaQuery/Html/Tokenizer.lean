import MediaQuery.Html.CharacterReference
import MediaQuery.Html.Token

/-!
# From characters to tokens

A tokenizer reads HTML one character at a time and keeps in its state whatever it has begun to read.
`step` takes one character and gives the tokens that it completes; `finish` gives those that the end
of the text completes. No character is looked at ahead of its turn, so a text is read by one fold.

Two things are decided outside. Which kind of text follows a start tag is for the reader of tokens
to say, through `Tokenizer.read`. And `<![CDATA[` opens a section only inside foreign elements,
which `step` is told.
-/

namespace MediaQuery.Html

/-- Where a character reference stands. -/
inductive Holder where
  | text (kind : TextKind)
  /-- In an attribute value, behind the quote that closes it, if it has one. -/
  | value (quote : Option Char)
deriving DecidableEq, Repr

/-- The two identifiers of a document type. -/
inductive Identifier where
  | publicId
  | systemId
deriving DecidableEq, Repr

/-- What a tokenizer is reading. -/
inductive State where
  | text (kind : TextKind)
  | tagOpen
  | endTagOpen
  | tagName
  /-- Behind the `<` in text that only certain end tags end. -/
  | less (kind : TextKind)
  | lessSlash (kind : TextKind)
  | endName (kind : TextKind)
  | scriptBang
  | scriptBangDash
  | hiddenDash (nested : Bool)
  | hiddenDashDash (nested : Bool)
  | nestedOpen
  | nestedClose
  | beforeAttribute
  | attributeName
  | afterAttributeName
  | beforeValue
  | value (quote : Option Char)
  | afterValue
  | selfClosing
  | bogusComment
  | declaration
  | commentStart
  | commentStartDash
  | comment
  | commentDash
  | commentDashDash
  | commentBang
  | beforeDoctype
  | doctypeName
  | afterDoctypeName
  | afterKeyword (id : Identifier)
  | beforeIdentifier (id : Identifier)
  | identifier (id : Identifier) (quote : Char)
  | afterIdentifier (id : Identifier)
  | bogusDoctype
  | section
  | sectionBracket
  | sectionBrackets
  | reference (holder : Holder)
  | named (holder : Holder)
  | numbered (holder : Holder)
  /-- In the digits of a number; `mark` is the letter that announces hexadecimal digits. -/
  | digits (holder : Holder) (mark : Option Char)
deriving DecidableEq, Repr

/-- A tag that is being read; its texts are held in reverse. -/
structure OpenTag where
  isEnd : Bool
  name : List Char
  attributes : List Dom.Attribute
  selfClosing : Bool
  attributeName : List Char
  attributeValue : List Char
deriving DecidableEq, Repr

/-- The state of a reader of HTML. -/
structure Tokenizer where
  state : State
  tag : OpenTag
  declaration : Declaration
  /-- The name of the last start tag, which alone ends the text of its element. -/
  lastStart : String
  /-- What was read on suspicion, in reverse. -/
  buffer : List Char
deriving DecidableEq, Repr

namespace OpenTag

/-- A tag of which the first letter has been read. -/
def start (isEnd : Bool) (c : Char) : OpenTag := ⟨isEnd, [c.toLower], [], false, [], []⟩

/-- Puts the attribute that was read among the others, unless its name is already there. -/
def commit (t : OpenTag) : OpenTag :=
  let name := String.ofList t.attributeName.reverse
  let value := String.ofList t.attributeValue.reverse
  let isNew := !t.attributeName.isEmpty && !t.attributes.any (·.name == name)
  { t with
    attributes := if isNew then t.attributes ++ [⟨name, value⟩] else t.attributes
    attributeName := []
    attributeValue := [] }

/-- Begins a new attribute. -/
def nextAttribute (t : OpenTag) (c : Char) : OpenTag := { t.commit with attributeName := [c] }

/-- The name of the tag. -/
def nameString (t : OpenTag) : String := String.ofList t.name.reverse

/-- The tag as it was read. -/
def toTag (t : OpenTag) : Tag := ⟨t.nameString, t.commit.attributes, t.selfClosing⟩

end OpenTag

namespace Tokenizer

/-- A reader at the start of a document. -/
def start : Tokenizer :=
  ⟨.text .data, ⟨false, [], [], false, [], []⟩, ⟨none, none, none, false⟩, "", []⟩

/-- Lets a reader go on with another kind of text. -/
def read (t : Tokenizer) (kind : TextKind) : Tokenizer := { t with state := .text kind }

/-- A reader in another state, and the tokens given on the way. -/
def go (t : Tokenizer) (state : State) (tokens : List Token) : Tokenizer × List Token :=
  ({ t with state }, tokens)

/-- Puts tokens before those of a step. -/
def after (tokens : List Token) (next : Tokenizer × List Token) : Tokenizer × List Token :=
  (next.1, tokens ++ next.2)

/-- A zero character is not let through where text is taken as it is. -/
def clean (c : Char) : Char := if c == '\x00' then '\ufffd' else c

/-- The characters of a text as tokens. -/
def chars (cs : List Char) : List Token := cs.map Token.char

/-- Applies a function to the tag that is being read. -/
def mapTag (t : Tokenizer) (f : OpenTag → OpenTag) : Tokenizer := { t with tag := f t.tag }

/-- Applies a function to the document type that is being read. -/
def mapDeclaration (t : Tokenizer) (f : Declaration → Declaration) : Tokenizer :=
  { t with declaration := f t.declaration }

/-- Marks the document type that is being read as broken. -/
def breakDeclaration (t : Tokenizer) : Tokenizer :=
  t.mapDeclaration fun d => { d with broken := true }

/-- Ends the tag that is being read. -/
def closeTag (t : Tokenizer) : Tokenizer × List Token :=
  if t.tag.isEnd then t.go (.text .data) [.endTag t.tag.toTag]
  else { t with lastStart := t.tag.nameString }.go (.text .data) [.startTag t.tag.toTag]

/-- Ends the document type that is being read. -/
def closeDeclaration (t : Tokenizer) : Tokenizer × List Token :=
  t.go (.text .data) [.doctype t.declaration]

/-! ## Text -/

/-- Reads a character of running text. -/
def stepText (t : Tokenizer) (kind : TextKind) (c : Char) : Tokenizer × List Token :=
  match kind with
  | .data =>
    if c == '&' then t.go (.reference (.text .data)) []
    else if c == '<' then t.go .tagOpen []
    else t.go (.text .data) [.char c]
  | .escapable =>
    if c == '&' then t.go (.reference (.text .escapable)) []
    else if c == '<' then t.go (.less .escapable) []
    else t.go (.text .escapable) [.char (clean c)]
  | .raw => if c == '<' then t.go (.less .raw) [] else t.go (.text .raw) [.char (clean c)]
  | .script =>
    if c == '<' then t.go (.less .script) [] else t.go (.text .script) [.char (clean c)]
  | .hiddenScript nested =>
    if c == '-' then t.go (.hiddenDash nested) [.char c]
    else if c == '<' then
      t.go (.less (.hiddenScript nested)) (if nested then [.char c] else [])
    else t.go (.text kind) [.char (clean c)]
  | .plain => t.go (.text .plain) [.char (clean c)]

/-- Reads the character behind a `<` in text that only certain end tags end. -/
def stepLess (t : Tokenizer) (kind : TextKind) (c : Char) : Tokenizer × List Token :=
  let otherwise := after [.char '<'] (t.stepText kind c)
  match kind with
  | .hiddenScript true =>
    if c == '/' then { t with buffer := [] }.go .nestedClose [.char c] else t.stepText kind c
  | .hiddenScript false =>
    if c == '/' then { t with buffer := [] }.go (.lessSlash kind) []
    else if c.isAlpha then { t with buffer := [c.toLower] }.go .nestedOpen (chars ['<', c])
    else otherwise
  | .script =>
    if c == '/' then { t with buffer := [] }.go (.lessSlash kind) []
    else if c == '!' then t.go .scriptBang (chars ['<', c])
    else otherwise
  | _ => if c == '/' then { t with buffer := [] }.go (.lessSlash kind) [] else otherwise

/-- Reads the character behind a `</` in text that only certain end tags end. -/
def stepLessSlash (t : Tokenizer) (kind : TextKind) (c : Char) : Tokenizer × List Token :=
  if c.isAlpha then { t with tag := .start true c, buffer := [c] }.go (.endName kind) []
  else after (chars ['<', '/']) (t.stepText kind c)

/-- Whether a character parts the name of a tag from what follows. -/
def endsName (c : Char) : Bool := Ascii.isSpace c || c == '/' || c == '>'

/-- Reads a character of the name of an end tag that may end the text. -/
def stepEndName (t : Tokenizer) (kind : TextKind) (c : Char) : Tokenizer × List Token :=
  if endsName c && t.tag.nameString == t.lastStart then
    if c == '/' then t.go .selfClosing []
    else if c == '>' then t.closeTag
    else t.go .beforeAttribute []
  else if c.isAlpha then
    { t with tag := { t.tag with name := c.toLower :: t.tag.name }, buffer := c :: t.buffer }.go
      (.endName kind) []
  else after (chars ('<' :: '/' :: t.buffer.reverse)) (t.stepText kind c)

/-- Reads a character behind one dash, or two, of a script within a comment. -/
def stepHiddenDash (t : Tokenizer) (nested second : Bool) (c : Char) : Tokenizer × List Token :=
  if c == '-' then t.go (.hiddenDashDash nested) [.char c]
  else if c == '>' && second then t.go (.text .script) [.char c]
  else if c == '<' then t.go (.less (.hiddenScript nested)) (if nested then [.char c] else [])
  else t.go (.text (.hiddenScript nested)) [.char (clean c)]

/-- Reads a character of the name of a tag within a script within a comment; `opening` says that it
is a start tag. -/
def stepNestedName (t : Tokenizer) (opening : Bool) (c : Char) : Tokenizer × List Token :=
  if endsName c then
    let isScript := t.buffer.reverse == "script".toList
    t.go (.text (.hiddenScript (if opening then isScript else !isScript))) [.char c]
  else if c.isAlpha then
    { t with buffer := c.toLower :: t.buffer }.go (if opening then .nestedOpen else .nestedClose)
      [.char c]
  else t.stepText (.hiddenScript (!opening)) c

/-! ## Tags -/

/-- Reads the character behind a `<`. -/
def stepTagOpen (t : Tokenizer) (c : Char) : Tokenizer × List Token :=
  if c == '!' then { t with buffer := [] }.go .declaration []
  else if c == '/' then t.go .endTagOpen []
  else if c == '?' then t.go .bogusComment [.mistake]
  else if c.isAlpha then { t with tag := .start false c }.go .tagName []
  else after [.mistake, .char '<'] (t.stepText .data c)

/-- Reads the character behind a `</`. -/
def stepEndTagOpen (t : Tokenizer) (c : Char) : Tokenizer × List Token :=
  if c == '>' then t.go (.text .data) [.mistake]
  else if c.isAlpha then { t with tag := .start true c }.go .tagName []
  else t.go .bogusComment [.mistake]

/-- Reads a character of the name of a tag. -/
def stepTagName (t : Tokenizer) (c : Char) : Tokenizer × List Token :=
  if c == '>' then t.closeTag
  else if c == '/' then t.go .selfClosing []
  else if Ascii.isSpace c then t.go .beforeAttribute []
  else (t.mapTag fun tag => { tag with name := clean c.toLower :: tag.name }).go .tagName []

/-- Reads a character where an attribute may begin. -/
def stepBeforeAttribute (t : Tokenizer) (c : Char) : Tokenizer × List Token :=
  if c == '>' then t.closeTag
  else if c == '/' then t.go .selfClosing []
  else if Ascii.isSpace c then t.go .beforeAttribute []
  else (t.mapTag (·.nextAttribute (clean c.toLower))).go .attributeName []

/-- Reads a character in the name of an attribute, or behind it. -/
def stepAttributeName (t : Tokenizer) (ended : Bool) (c : Char) : Tokenizer × List Token :=
  if c == '>' then t.closeTag
  else if c == '/' then t.go .selfClosing []
  else if c == '=' then t.go .beforeValue []
  else if Ascii.isSpace c then t.go .afterAttributeName []
  else if ended then (t.mapTag (·.nextAttribute (clean c.toLower))).go .attributeName []
  else
    (t.mapTag fun tag => { tag with attributeName := clean c.toLower :: tag.attributeName }).go
      .attributeName []

/-- Adds characters to the value of the attribute that is being read. -/
def addValue (t : Tokenizer) (cs : List Char) : Tokenizer :=
  t.mapTag fun tag => { tag with attributeValue := cs.reverse ++ tag.attributeValue }

/-- Reads a character of an attribute value. -/
def stepValue (t : Tokenizer) (quote : Option Char) (c : Char) : Tokenizer × List Token :=
  if c == '&' then t.go (.reference (.value quote)) []
  else
    match quote with
    | some q =>
      if c == q then t.go .afterValue [] else (t.addValue [clean c]).go (.value quote) []
    | none =>
      if c == '>' then t.closeTag
      else if Ascii.isSpace c then t.go .beforeAttribute []
      else (t.addValue [clean c]).go (.value quote) []

/-- Reads a character behind an equals sign. -/
def stepBeforeValue (t : Tokenizer) (c : Char) : Tokenizer × List Token :=
  if Ascii.isSpace c then t.go .beforeValue []
  else if c == '"' || c == '\'' then t.go (.value (some c)) []
  else if c == '>' then t.closeTag
  else t.stepValue none c

/-- Reads the character behind a quoted attribute value. -/
def stepAfterValue (t : Tokenizer) (c : Char) : Tokenizer × List Token :=
  if Ascii.isSpace c then t.go .beforeAttribute [] else t.stepBeforeAttribute c

/-- Reads the character behind a slash in a tag. -/
def stepSelfClosing (t : Tokenizer) (c : Char) : Tokenizer × List Token :=
  if c == '>' then (t.mapTag fun tag => { tag with selfClosing := true }).closeTag
  else t.stepBeforeAttribute c

/-! ## Comments, document types and sections -/

/-- Reads a character of a comment that something other than two dashes opened. -/
def stepBogusComment (t : Tokenizer) (c : Char) : Tokenizer × List Token :=
  if c == '>' then t.go (.text .data) [.comment] else t.go .bogusComment []

/-- Reads a character of what follows a `<!`. -/
def stepDeclaration (t : Tokenizer) (foreign : Bool) (c : Char) : Tokenizer × List Token :=
  let buffer := c :: t.buffer
  let seen := buffer.reverse
  let word := Ascii.lower seen
  let t' := { t with buffer }
  if seen == ['-', '-'] then t.go .commentStart []
  else if word == "doctype".toList then
    { t with declaration := ⟨none, none, none, false⟩ }.go .beforeDoctype []
  else if foreign && seen == "[CDATA[".toList then t.go .section []
  else if seen == ['-'] || word.isPrefixOf "doctype".toList ||
      (foreign && seen.isPrefixOf "[CDATA[".toList) then t'.go .declaration []
  else after [.mistake] (t.stepBogusComment c)

/-- Reads a character of a comment. -/
def stepComment (t : Tokenizer) (state : State) (c : Char) : Tokenizer × List Token :=
  let finished := t.go (.text .data) [.comment]
  match state with
  | .commentStart =>
    if c == '-' then t.go .commentStartDash [] else if c == '>' then finished else t.go .comment []
  | .commentStartDash =>
    if c == '-' then t.go .commentDashDash [] else if c == '>' then finished else t.go .comment []
  | .commentDash => t.go (if c == '-' then .commentDashDash else .comment) []
  | .commentDashDash =>
    if c == '>' then finished
    else if c == '!' then t.go .commentBang []
    else if c == '-' then t.go .commentDashDash []
    else t.go .comment []
  | .commentBang =>
    if c == '>' then finished else t.go (if c == '-' then .commentDash else .comment) []
  | _ => t.go (if c == '-' then .commentDash else .comment) []

/-- Adds a character to a text that may not have begun yet. -/
def push (s : Option String) (c : Char) : Option String := some ((s.getD "").push c)

/-- Applies a function to one of the identifiers of the document type that is being read. -/
def mapIdentifier (t : Tokenizer) (id : Identifier) (f : Option String → Option String) :
    Tokenizer :=
  t.mapDeclaration fun d =>
    match id with
    | .publicId => { d with publicId := f d.publicId }
    | .systemId => { d with systemId := f d.systemId }

/-- Reads a character in or before the name of a document type. -/
def stepDoctypeName (t : Tokenizer) (begun : Bool) (c : Char) : Tokenizer × List Token :=
  if c == '>' then (if begun then t else t.breakDeclaration).closeDeclaration
  else if Ascii.isSpace c then
    if begun then { t with buffer := [] }.go .afterDoctypeName [] else t.go .beforeDoctype []
  else
    (t.mapDeclaration fun d => { d with name := push d.name (clean c.toLower) }).go .doctypeName []

/-- Reads a character of a document type that makes no sense any more. -/
def stepBogusDoctype (t : Tokenizer) (c : Char) : Tokenizer × List Token :=
  if c == '>' then t.closeDeclaration else t.go .bogusDoctype []

/-- Reads a character of the keyword behind the name of a document type. -/
def stepAfterDoctypeName (t : Tokenizer) (c : Char) : Tokenizer × List Token :=
  if t.buffer.isEmpty && Ascii.isSpace c then t.go .afterDoctypeName []
  else if t.buffer.isEmpty && c == '>' then t.closeDeclaration
  else
    let buffer := c.toLower :: t.buffer
    let word := buffer.reverse
    if word == "public".toList then t.go (.afterKeyword .publicId) []
    else if word == "system".toList then t.go (.afterKeyword .systemId) []
    else if word.isPrefixOf "public".toList || word.isPrefixOf "system".toList then
      { t with buffer }.go .afterDoctypeName []
    else t.breakDeclaration.stepBogusDoctype c

/-- Reads a character where an identifier of a document type may begin. -/
def stepBeforeIdentifier (t : Tokenizer) (id : Identifier) (c : Char) : Tokenizer × List Token :=
  if Ascii.isSpace c then t.go (.beforeIdentifier id) []
  else if c == '"' || c == '\'' then
    (t.mapIdentifier id fun _ => some "").go (.identifier id c) []
  else t.breakDeclaration.stepBogusDoctype c

/-- Reads a character of an identifier of a document type. -/
def stepIdentifier (t : Tokenizer) (id : Identifier) (quote c : Char) : Tokenizer × List Token :=
  if c == quote then t.go (.afterIdentifier id) []
  else if c == '>' then t.breakDeclaration.closeDeclaration
  else (t.mapIdentifier id (push · (clean c))).go (.identifier id quote) []

/-- Reads a character behind an identifier of a document type. -/
def stepAfterIdentifier (t : Tokenizer) (id : Identifier) (c : Char) : Tokenizer × List Token :=
  if Ascii.isSpace c then t.go (.afterIdentifier id) []
  else if c == '>' then t.closeDeclaration
  else
    match id with
    | .publicId =>
      if c == '"' || c == '\'' then
        (t.mapIdentifier .systemId fun _ => some "").go (.identifier .systemId c) []
      else t.breakDeclaration.stepBogusDoctype c
    | .systemId => t.go .bogusDoctype []

/-- Reads a character of a section of plain text in a foreign element. -/
def stepSection (t : Tokenizer) (brackets : Nat) (c : Char) : Tokenizer × List Token :=
  match brackets with
  | 0 => if c == ']' then t.go .sectionBracket [] else t.go .section [.char c]
  | 1 =>
    if c == ']' then t.go .sectionBrackets [] else t.go .section (chars [']', c])
  | _ =>
    if c == ']' then t.go .sectionBrackets [.char c]
    else if c == '>' then t.go (.text .data) []
    else t.go .section (chars [']', ']', c])

/-! ## Character references -/

/-- Puts the characters of a reference where it stands. -/
def place (t : Tokenizer) (holder : Holder) (cs : List Char) : Tokenizer × List Token :=
  match holder with
  | .text kind => t.go (.text kind) (chars cs)
  | .value quote => (t.addValue cs).go (.value quote) []

/-- Reads a character where a reference stood. -/
def stepHolder (t : Tokenizer) (holder : Holder) (c : Char) : Tokenizer × List Token :=
  match holder with
  | .text kind => t.stepText kind c
  | .value quote => t.stepValue quote c

/-- Puts the characters of a reference where it stands, and then reads a character. -/
def placeThen (t : Tokenizer) (holder : Holder) (cs : List Char) (c : Char) :
    Tokenizer × List Token :=
  let (t, tokens) := t.place holder cs
  after tokens (t.stepHolder holder c)

/-- What an unfinished reference stands for when `next` follows it. The flag says that `next`
belongs to it. -/
def resolve (t : Tokenizer) (next : Option Char) : List Char × Bool :=
  match t.state with
  | .named holder =>
    resolveNamed t.buffer.reverse next
      (match holder with
        | .value _ => true
        | .text _ => false)
  | .numbered _ => (['&', '#'], false)
  | .digits _ mark =>
    if t.buffer.isEmpty then ('&' :: '#' :: mark.toList, false)
    else
      ([numberedCharacter (numberOf (if mark.isSome then 16 else 10) t.buffer.reverse)],
        next == some ';')
  | _ => (['&'], false)

/-- Ends a reference at a character that does not go on with it. -/
def closeReference (t : Tokenizer) (holder : Holder) (c : Char) : Tokenizer × List Token :=
  let (cs, taken) := t.resolve (some c)
  if taken then t.place holder cs else after [.mistake] (t.placeThen holder cs c)

/-- Reads a character behind an ampersand. -/
def stepReference (t : Tokenizer) (holder : Holder) (c : Char) : Tokenizer × List Token :=
  if c.isAlphanum then { t with buffer := [c] }.go (.named holder) []
  else if c == '#' then t.go (.numbered holder) []
  else t.placeThen holder ['&'] c

/-- Reads a character of a reference by number, behind the number sign. -/
def stepNumbered (t : Tokenizer) (holder : Holder) (c : Char) : Tokenizer × List Token :=
  if c == 'x' || c == 'X' then { t with buffer := [] }.go (.digits holder (some c)) []
  else if c.isDigit then { t with buffer := [c] }.go (.digits holder none) []
  else t.closeReference holder c

/-- Reads a character of the digits of a reference by number. -/
def stepDigits (t : Tokenizer) (holder : Holder) (mark : Option Char) (c : Char) :
    Tokenizer × List Token :=
  let isDigit := if mark.isSome then (Ascii.hexValue c).isSome else c.isDigit
  if isDigit then { t with buffer := c :: t.buffer }.go (.digits holder mark) []
  else t.closeReference holder c

/-! ## The whole -/

/-- Reads one character; `foreign` says whether it stands in a foreign element. -/
def step (t : Tokenizer) (foreign : Bool) (c : Char) : Tokenizer × List Token :=
  match t.state with
  | .text kind => t.stepText kind c
  | .tagOpen => t.stepTagOpen c
  | .endTagOpen => t.stepEndTagOpen c
  | .tagName => t.stepTagName c
  | .less kind => t.stepLess kind c
  | .lessSlash kind => t.stepLessSlash kind c
  | .endName kind => t.stepEndName kind c
  | .scriptBang =>
    if c == '-' then t.go .scriptBangDash [.char c] else t.stepText .script c
  | .scriptBangDash =>
    if c == '-' then t.go (.hiddenDashDash false) [.char c] else t.stepText .script c
  | .hiddenDash nested => t.stepHiddenDash nested false c
  | .hiddenDashDash nested => t.stepHiddenDash nested true c
  | .nestedOpen => t.stepNestedName true c
  | .nestedClose => t.stepNestedName false c
  | .beforeAttribute => t.stepBeforeAttribute c
  | .attributeName => t.stepAttributeName false c
  | .afterAttributeName => t.stepAttributeName true c
  | .beforeValue => t.stepBeforeValue c
  | .value quote => t.stepValue quote c
  | .afterValue => t.stepAfterValue c
  | .selfClosing => t.stepSelfClosing c
  | .bogusComment => t.stepBogusComment c
  | .declaration => t.stepDeclaration foreign c
  | .beforeDoctype => t.stepDoctypeName false c
  | .doctypeName => t.stepDoctypeName true c
  | .afterDoctypeName => t.stepAfterDoctypeName c
  | .afterKeyword id | .beforeIdentifier id => t.stepBeforeIdentifier id c
  | .identifier id quote => t.stepIdentifier id quote c
  | .afterIdentifier id => t.stepAfterIdentifier id c
  | .bogusDoctype => t.stepBogusDoctype c
  | .section => t.stepSection 0 c
  | .sectionBracket => t.stepSection 1 c
  | .sectionBrackets => t.stepSection 2 c
  | .reference holder => t.stepReference holder c
  | .named holder =>
    if c.isAlphanum then { t with buffer := c :: t.buffer }.go t.state []
    else t.closeReference holder c
  | .numbered holder => t.stepNumbered holder c
  | .digits holder mark => t.stepDigits holder mark c
  | state => t.stepComment state c

/-- The tokens that the end of the text completes. A tag that is not closed is dropped. -/
def finish (t : Tokenizer) : List Token :=
  let last :=
    match t.state with
    | .tagOpen | .less (.hiddenScript false) | .less .escapable | .less .raw | .less .script =>
      chars ['<']
    | .endTagOpen | .lessSlash _ => chars ['<', '/']
    | .endName _ => chars ('<' :: '/' :: t.buffer.reverse)
    | .bogusComment | .declaration | .commentStart | .commentStartDash | .comment | .commentDash
    | .commentDashDash | .commentBang => [.comment]
    | .beforeDoctype | .doctypeName | .afterDoctypeName | .afterKeyword _ | .beforeIdentifier _
    | .identifier _ _ | .afterIdentifier _ => [.doctype t.breakDeclaration.declaration]
    | .bogusDoctype => [.doctype t.declaration]
    | .sectionBracket => chars [']']
    | .sectionBrackets => chars [']', ']']
    | .reference (.text _) | .named (.text _) | .numbered (.text _) | .digits (.text _) _ =>
      chars (t.resolve none).1
    | _ => []
  last ++ [.finish]

end Tokenizer

end MediaQuery.Html
