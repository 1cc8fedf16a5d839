import MediaQuery.Dom.Document

/-!
# Documents under construction

While markup is being read, nodes are created, put into place, moved and taken out again. A
`Construction` holds every node ever created under its identity, with the identities of its
children; the document itself is node 0. A node may for a time have no parent at all, and nothing
here keeps a caller from giving it two.

Text is never put next to text by the two operations that insert text: it goes to the end of the
text node before it, if there is one.

`findParent?` and `finish` walk down from the document. A chain of nodes that does not come back to
one of its own visits each node at most once, so as many steps as there are nodes suffice.
-/

namespace MediaQuery.Dom

/-- What a node under construction is, apart from its children. -/
inductive Content where
  | document
  | element (element : Element)
  | text (content : String)
deriving DecidableEq, Repr

/-- A node under construction. -/
structure Item where
  content : Content
  children : List NodeId
deriving DecidableEq, Repr

/-- What is inserted: a node, or a text for which a node is made if none is there to take it. -/
inductive Child where
  | node (id : NodeId)
  | text (content : String)
deriving DecidableEq, Repr

/-- A document under construction. -/
structure Construction where
  items : Array Item
  doctype : Option Doctype
  mode : Mode
deriving DecidableEq, Repr

namespace Construction

/-- Nothing but the document. -/
def empty : Construction := ⟨#[⟨.document, []⟩], none, .noQuirks⟩

/-- The identity of the document. -/
def root : NodeId := 0

/-- What a node is. An identity that was never given out stands for a text that holds nothing. -/
def content (c : Construction) (n : NodeId) : Content :=
  (c.items[n]?.map Item.content).getD (.text "")

/-- The children of a node. -/
def children (c : Construction) (n : NodeId) : List NodeId :=
  (c.items[n]?.map Item.children).getD []

/-- Tag and attributes of a node, if it is an element. -/
def element? (c : Construction) (n : NodeId) : Option Element :=
  match c.content n with
  | .element e => some e
  | _ => none

/-- Whether a node is a text. -/
def isText (c : Construction) (n : NodeId) : Bool :=
  match c.content n with
  | .text _ => true
  | _ => false

/-- Applies a function to a node. -/
def modify (c : Construction) (n : NodeId) (f : Item → Item) : Construction :=
  { c with items := c.items.modify n f }

/-- Gives a node that may have children other ones. -/
def setChildren (c : Construction) (n : NodeId) (children : List NodeId) : Construction :=
  if c.isText n then c else c.modify n fun item => { item with children }

/-- Creates a node that is not yet anywhere. -/
def create (c : Construction) (content : Content) : NodeId × Construction :=
  (c.items.size, { c with items := c.items.push ⟨content, []⟩ })

/-- Adds to the end of a text; other nodes stay as they are. -/
def extendText (c : Construction) (n : NodeId) (more : String) : Construction :=
  c.modify n fun item =>
    match item.content with
    | .text held => { item with content := .text (held ++ more) }
    | _ => item

/-- Puts a child between two runs of children of a node. A text is added to the last node before it
if that is a text. -/
def insertBetween (c : Construction) (parent : NodeId) (before after : List NodeId)
    (child : Child) : Construction :=
  match child with
  | .node n => c.setChildren parent (before ++ n :: after)
  | .text content =>
    match before.getLast? with
    | some last =>
      if c.isText last then c.extendText last content
      else
        let (n, c) := c.create (.text content)
        c.setChildren parent (before ++ n :: after)
    | none =>
      let (n, c) := c.create (.text content)
      c.setChildren parent (before ++ n :: after)

/-- Puts a child at the end of a node. Into a text nothing is put. -/
def append (c : Construction) (parent : NodeId) (child : Child) : Construction :=
  if c.isText parent then c else c.insertBetween parent (c.children parent) [] child

/-- The parent of a node, looked for below `from` and at most `fuel` levels deep. -/
def findParentBelow (c : Construction) (target : NodeId) : (fuel : Nat) → NodeId → Option NodeId
  | 0, _ => none
  | fuel + 1, n =>
    (c.children n).findSome? fun child =>
      if child = target then some n else findParentBelow c target fuel child

/-- The parent of a node: the first node of the document, in document order, that has it as a
child. -/
def findParent? (c : Construction) (target : NodeId) : Option NodeId :=
  c.findParentBelow target c.items.size root

/-- Puts a child directly before a node of the document. Before a node that is not in the document
nothing is put. -/
def insertBefore (c : Construction) (sibling : NodeId) (child : Child) : Construction :=
  match c.findParent? sibling with
  | none => c
  | some parent =>
    let children := c.children parent
    c.insertBetween parent (children.takeWhile (· != sibling)) (children.dropWhile (· != sibling))
      child

/-- Puts a child before `element` if that is in the document, and else at the end of `previous`. -/
def insertFostered (c : Construction) (element previous : NodeId) (child : Child) : Construction :=
  if (c.findParent? element).isSome then c.insertBefore element child else c.append previous child

/-- Takes a node out of the document. -/
def detach (c : Construction) (n : NodeId) : Construction :=
  match c.findParent? n with
  | some parent => c.setChildren parent ((c.children parent).filter (· != n))
  | none => c

/-- Moves the children of a node to the end of another. -/
def reparent (c : Construction) (n target : NodeId) : Construction :=
  let moved := c.children n
  let c := c.setChildren n []
  c.setChildren target (c.children target ++ moved)

/-- Applies a function to tag and attributes of an element. -/
def modifyElement (c : Construction) (n : NodeId) (f : Element → Element) : Construction :=
  c.modify n fun item =>
    match item.content with
    | .element e => { item with content := .element (f e) }
    | _ => item

/-- Adds attributes whose names an element does not have yet. -/
def addMissing (c : Construction) (n : NodeId) (offered : List Attribute) : Construction :=
  c.modifyElement n (·.addMissing offered)

/-- Sets an attribute of an element. -/
def setAttr (c : Construction) (n : NodeId) (name value : String) : Construction :=
  c.modifyElement n (·.setAttr name value)

/-- Creates an element of style text for one media type. -/
def createStyle (c : Construction) (media css : String) : NodeId × Construction :=
  let (textId, c) := c.create (.text css)
  let (id, c) := c.create (.element (Element.style media))
  (id, c.setChildren id [textId])

/-- The tree below a node, at most `fuel` levels deep. -/
def tree (c : Construction) : (fuel : Nat) → NodeId → Node
  | 0, n => .text n ""
  | fuel + 1, n =>
    match c.content n with
    | .text content => .text n content
    | .element e => .element n e ((c.children n).map (tree c fuel))
    | .document => .text n ""

/-- The trees directly below a node. -/
def trees (c : Construction) (n : NodeId) : List Node :=
  (c.children n).map (c.tree c.items.size)

/-- The document as it stands. -/
def finish (c : Construction) : Document :=
  ⟨c.doctype, c.mode, c.trees root, Node.unusedId c.items.size (c.trees root)⟩

end Construction

end MediaQuery.Dom
