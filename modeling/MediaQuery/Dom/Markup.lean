import MediaQuery.Dom.Node

/-!
# Writing markup

A tree is written back as markup. Texts and attribute values are escaped, each for its place; the
text of a `style` or `script` element is written as it is; an element that cannot have content has
no end tag, and whatever children it was given are not written.
-/

namespace MediaQuery.Dom

/-- The tags of elements without content, in the letter case in which they count. -/
def voidTags : List String :=
  ["meta", "img", "br", "hr", "input", "link", "area", "base", "col", "embed", "param", "source",
    "track", "wbr"]

/-- A character of a text, as markup. -/
def escapeTextChar : Char → List Char
  | '&' => "&amp;".toList
  | '<' => "&lt;".toList
  | '>' => "&gt;".toList
  | c => [c]

/-- A character of an attribute value, as markup. -/
def escapeValueChar : Char → List Char
  | '&' => "&amp;".toList
  | '"' => "&quot;".toList
  | c => [c]

/-- A text, as markup. -/
def escapeText (cs : List Char) : List Char := cs.flatMap escapeTextChar

/-- An attribute value, as markup. -/
def escapeValue (cs : List Char) : List Char := cs.flatMap escapeValueChar

/-- An attribute, as markup, with the space before it. -/
def Attribute.markup (a : Attribute) : List Char :=
  ' ' :: (a.name.toList ++ '=' :: '"' :: (escapeValue a.value.toList ++ ['"']))

namespace Element

/-- Whether the element has neither content nor an end tag. -/
def isVoid (e : Element) : Bool := voidTags.contains e.tag

/-- Whether texts directly in the element are written as they are. -/
def isRaw (e : Element) : Bool := e.is "style" || e.is "script"

/-- The start tag of an element. -/
def startTag (e : Element) : List Char :=
  '<' :: (e.tag.toList ++ (e.attributes.flatMap Attribute.markup ++ ['>']))

/-- The end tag of an element. -/
def endTag (e : Element) : List Char := '<' :: '/' :: (e.tag.toList ++ ['>'])

end Element

namespace Node

mutual

/-- A tree as markup; `raw` says that a text is written as it is. -/
def markup (raw : Bool) : Node → List Char
  | text _ content => if raw then content.toList else escapeText content.toList
  | element _ e children =>
    if e.isVoid then e.startTag else e.startTag ++ (markupAll e.isRaw children ++ e.endTag)

/-- A list of trees as markup. -/
def markupAll (raw : Bool) : List Node → List Char
  | [] => []
  | n :: rest => markup raw n ++ markupAll raw rest

end

theorem markupAll_append (raw : Bool) (a b : List Node) :
    markupAll raw (a ++ b) = markupAll raw a ++ markupAll raw b := by
  induction a with
  | nil => rfl
  | cons n rest ih => simp [markupAll, ih]

end Node

end MediaQuery.Dom
