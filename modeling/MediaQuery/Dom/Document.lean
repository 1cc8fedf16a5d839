import MediaQuery.Dom.Markup

/-!
# Documents

A document is a list of trees with a document type and a rendering mode. Style elements live in its
head: the first `head` child of the document element, or the document element itself when it has no
such child.

`nextId` is an identity that no node of the document has, and none after it has been used either.
-/

namespace MediaQuery.Dom

/-- A document type declaration. -/
structure Doctype where
  name : String
  publicId : String
  systemId : String
deriving DecidableEq, Repr

/-- How closely a document asks to be laid out like the pages of old. -/
inductive Mode where
  | quirks
  | limitedQuirks
  | noQuirks
deriving DecidableEq, Repr

/-- A document. -/
structure Document where
  doctype : Option Doctype
  mode : Mode
  children : List Node
  nextId : NodeId

/-- A link to a stylesheet, with the media it is meant for. -/
structure StylesheetLink where
  href : String
  media : Option String
deriving DecidableEq, Repr

/-- The stylesheet that an element links to, if its `rel` says so and its `href` is not empty. -/
def Element.stylesheetLink? (e : Element) : Option StylesheetLink :=
  match e.attr? "rel", e.attr? "href" with
  | some rel, some href =>
    if Ascii.sameName rel "stylesheet" && href != "" then some ⟨href, e.attr? "media"⟩ else none
  | _, _ => none

/-- Applies a function to the first node that satisfies a test. -/
def modifyFirst (test : Node → Bool) (f : Node → Node) : List Node → List Node
  | [] => []
  | n :: rest => if test n then f n :: rest else n :: modifyFirst test f rest

/-- A node with other children; a text has none and stays as it is. -/
def Node.withChildren (children : List Node) : Node → Node
  | .text id content => .text id content
  | .element id e _ => .element id e children

namespace Document

/-- A document that holds nothing. -/
def empty : Document := ⟨none, .noQuirks, [], 0⟩

/-- The first element directly in the document. -/
def documentElement? (d : Document) : Option Node := d.children.find? Node.isElement

/-- Whether a node is taken for the head when it is a child of the document element. -/
def isHead (n : Node) : Bool := n.isTagged "head"

/-- The element that style elements are put into. -/
def head? (d : Document) : Option Node :=
  d.documentElement?.map fun root => (root.children.find? isHead).getD root

/-- The children of the head. -/
def headChildren? (d : Document) : Option (List Node) := d.head?.map Node.children

/-- A document element whose head has other children. -/
def setHeadChildren (children : List Node) (root : Node) : Node :=
  if root.children.any isHead then
    root.withChildren (modifyFirst isHead (Node.withChildren children) root.children)
  else root.withChildren children

/-- The document with other children in its head; without a head it stays as it is. -/
def withHeadChildren (d : Document) (children : List Node) : Document :=
  { d with children := modifyFirst Node.isElement (setHeadChildren children) d.children }

/-- The document with one more node among the children of its head. The node gets an identity of its
own, and those of the nodes below it are not given out again. -/
def insertInHead (d : Document) (position : Nat) (node : NodeId → Node) : Document :=
  match d.headChildren? with
  | some children =>
    let new := node d.nextId
    let d' := d.withHeadChildren (children.insertIdx (min position children.length) new)
    { d' with nextId := Node.unusedId (d.nextId + 1) [new] }
  | none => d

/-- The document without one of the children of its head. -/
def removeFromHead (d : Document) (position : Nat) : Document :=
  match d.headChildren? with
  | some children => d.withHeadChildren (children.eraseIdx position)
  | none => d

/-- The stylesheets that the head links to, in document order. -/
def stylesheetLinks (d : Document) : List StylesheetLink :=
  match d.head? with
  | some head =>
    (head.collect "link").filterMap fun n => n.element?.bind Element.stylesheetLink?
  | none => []

/-- The base reference: the `href` of the first `base` element that has one. -/
def baseHref? (d : Document) : Option String :=
  (Node.collectAll "base" d.children).findSome? fun n => n.element?.bind (·.attr? "href")

/-- The document as markup. Of the document type only the name is written. -/
def markup (d : Document) : List Char :=
  let declaration :=
    match d.doctype with
    | some doctype => "<!DOCTYPE ".toList ++ (doctype.name.toList ++ ['>'])
    | none => []
  declaration ++ Node.markupAll false d.children

/-- The document as a string of markup. -/
def toHtml (d : Document) : String := String.ofList d.markup

/-- The nodes of the document in order, each with its depth. -/
def listing (d : Document) : List (Nat × Node) := Node.listingAll 0 d.children

/-- The identities of the nodes of the document, in document order. -/
def ids (d : Document) : List NodeId := Node.idsAll d.children

end Document

end MediaQuery.Dom
