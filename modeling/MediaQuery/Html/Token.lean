import MediaQuery.Dom.Element

/-!
# Tokens of markup

What a reader of HTML sees: document types, tags, comments, and text one character at a time. What a
comment says is not kept.
-/

namespace MediaQuery.Html

/-- A document type declaration as it was written. -/
structure Declaration where
  name : Option String
  publicId : Option String
  systemId : Option String
  /-- Whether the declaration is broken, or ends too early, so that it asks for old layout. -/
  broken : Bool
deriving DecidableEq, Repr

/-- A start tag or an end tag, its name and the names of its attributes in small letters. -/
structure Tag where
  name : String
  attributes : List Dom.Attribute
  selfClosing : Bool
deriving DecidableEq, Repr

/-- Whether two tags make the same element, the order of attributes set aside. -/
def Tag.alike (a b : Tag) : Bool :=
  a.name == b.name && a.attributes.length == b.attributes.length &&
    a.attributes.all b.attributes.contains

/-- Whether the tag has a type attribute that says it is hidden. -/
def Tag.isHidden (t : Tag) : Bool :=
  t.attributes.any fun a => a.name == "type" && Ascii.sameName a.value "hidden"

/-- The tokens of a document. -/
inductive Token where
  | doctype (declaration : Declaration)
  | startTag (tag : Tag)
  | endTag (tag : Tag)
  | comment
  | char (c : Char)
  /-- A mistake without a token of its own. It matters only in that it stands between others. -/
  | mistake
  | finish
deriving DecidableEq, Repr

/-- The ways in which running text is read. -/
inductive TextKind where
  /-- Text with tags and character references. -/
  | data
  /-- Text with character references, up to one end tag. -/
  | escapable
  /-- Text that is taken as it is, up to one end tag. -/
  | raw
  /-- The text of a script. -/
  | script
  /-- The text of a script within a comment; in `nested` a script element was opened there. -/
  | hiddenScript (nested : Bool)
  /-- Text that is taken as it is to the end of the document. -/
  | plain
deriving DecidableEq, Repr

end MediaQuery.Html
