import MediaQuery.Html.Builder.Select

/-!
# Rules of foreign content

Inside SVG and MathML elements a token is read by rules of its own, unless the element at hand lets
HTML in. A tag that is plainly HTML ends the foreign content.
-/

namespace MediaQuery.Html

open Dom (Element)

/-- Whether a token in a foreign element is read by the rules of HTML all the same. -/
def readsAsHtml (e : Element) : Token → Bool
  | .char _ => ElementClass.mathText e || ElementClass.svgHost e
  | .startTag tag =>
    (ElementClass.mathText e && tag.name != "mglyph" && tag.name != "malignmark") ||
      ElementClass.svgHost e ||
      (e.vocabulary == .mathml && e.tag == "annotation-xml" && tag.name == "svg")
  | .finish => true
  | _ => false

/-- The innermost open element, if it is foreign. -/
def Builder.foreign? (b : Builder) : Option Element :=
  (b.stack.head?.map b.element).filter fun e => e.vocabulary != .html

namespace Build

/-- Whether a tag is plainly HTML. -/
def breaksOut (tag : Tag) : Bool :=
  breakoutTags.contains tag.name ||
    (tag.name == "font" &&
      tag.attributes.any fun a => ["color", "face", "size"].contains a.name)

/-- Ends the foreign content and applies the rules of HTML. -/
def breakOut (token : Token) : Build Outcome := do
  popTo fun e => e.vocabulary == .html || ElementClass.mathText e || ElementClass.svgHost e
  byPart token

/-- Rules for start tags in a foreign element. -/
def foreignStart (within : Element) (tag : Tag) : Build Outcome :=
  if breaksOut tag then breakOut (.startTag tag)
  else
    let name := if within.vocabulary == .svg then respell svgTags tag.name else tag.name
    insertForeign within.vocabulary { tag with name }

/-- Rules for an end tag in a foreign element: it closes the nearest element of its name, but where
the foreign elements end the rules of HTML take over. `first` says that the element at hand is the
innermost one. -/
def foreignEnd (tag : Tag) (first : Bool) : (stack : List Dom.NodeId) → Build Outcome
  | [] | [_] => return .done
  | n :: rest => do
    let e := (← get).element n
    if !first && e.vocabulary == .html then byPart (.endTag tag)
    else if Ascii.sameName e.tag tag.name then
      modify fun b => { b with stack := rest }
      return .done
    else foreignEnd tag false rest

/-- Rules in a foreign element. -/
def inForeign (within : Element) : Token → Build Outcome
  | .char c =>
    completing do
      if c == '\x00' then insertChar '\ufffd'
      else
        if !Ascii.isSpace c then notFrameset
        insertChar c
  | .comment => completing insertComment
  | .startTag tag => foreignStart within tag
  | .endTag tag => do
    if tag.name == "br" || tag.name == "p" then breakOut (.endTag tag)
    else foreignEnd tag true (← get).stack
  | _ => return .done

/-- Applies the rules for a token once. -/
def once (token : Token) : Build Outcome := do
  match (← get).foreign? with
  | some e => if readsAsHtml e token then byPart token else inForeign e token
  | none => byPart token

/-- Applies the rules for a token until one of them is done with it, at most `fuel` times. -/
def settle (token : Token) : (fuel : Nat) → Build (Option TextKind)
  | 0 => return none
  | fuel + 1 => do
    match ← once token with
    | .done => return none
    | .read kind => return some kind
    | .again => settle token fuel

/-- A number of times that always suffices: each time, a part of the document is entered that lies
further on, or an open element is closed. -/
def enough (b : Builder) : Nat := 8 * b.stack.length + 64

/-- Takes in a token, and says what kind of text follows if it is not what the token itself
suggests. -/
def take (token : Token) : Build (Option TextKind) := do
  let b ← get
  set { b with ignoreLineFeed := false }
  match token with
  | .mistake => return none
  | .doctype declaration =>
    if b.part == .initial then
      onTree fun tree =>
        { tree with doctype := some declaration.toDoctype, mode := declaration.mode }
      enter .beforeHtml
    return none
  | .char c => if b.ignoreLineFeed && c == '\n' then return none else settle token (enough b)
  | _ => settle token (enough b)

end Build

end MediaQuery.Html
