import MediaQuery.Dom.Construction
import MediaQuery.Html.ElementClass
import MediaQuery.Html.LayoutMode

/-!
# The state of tree building

A builder turns tokens into a tree. It knows which elements are open, which formatting is to be
carried on, and in which part of a document it is. This module holds that state and the moves on it
from which the rules for tokens are put together.

The open elements and the formatting are lists with the latest at the head.
-/

namespace MediaQuery.Html

open Dom (NodeId Element Construction Vocabulary)

/-- The part of a document that a builder is in; each has rules of its own. -/
inductive Part where
  | initial
  | beforeHtml
  | beforeHead
  | inHead
  | afterHead
  | inBody
  | text
  | inTable
  | inTableText
  | inCaption
  | inColumnGroup
  | inTableBody
  | inRow
  | inCell
  | inSelect
  | inSelectInTable
  | inTemplate
  | afterBody
  | inFrameset
  | afterFrameset
  | afterAfterBody
  | afterAfterFrameset
deriving DecidableEq, Repr

/-- An entry of the list of formatting: an element with the tag that made it, or a boundary. -/
inductive Formatting where
  | marker
  | element (id : NodeId) (tag : Tag)
deriving DecidableEq, Repr

/-- A tree that is being built from tokens. -/
structure Builder where
  tree : Construction
  part : Part
  /-- The part to go back to from `text` and `inTableText`. -/
  returnPart : Part
  /-- The parts that the open templates are in, the innermost first. -/
  templateParts : List Part
  /-- The open elements, the innermost first. -/
  stack : List NodeId
  /-- The formatting to be carried on, the latest first. -/
  formatting : List Formatting
  head : Option NodeId
  form : Option NodeId
  framesetOk : Bool
  /-- Whether a line feed would now be dropped. -/
  ignoreLineFeed : Bool
  /-- Whether content that may not stand in a table is put before it. -/
  fostering : Bool
  /-- Characters read in a table, in reverse. -/
  tableText : List Char
deriving Repr

/-- What is to happen to a token after a rule has been applied. -/
inductive Outcome where
  | done
  /-- The token is to be looked at again. -/
  | again
  /-- Text of a certain kind follows. -/
  | read (kind : TextKind)
deriving DecidableEq, Repr

/-- A computation on a builder. -/
abbrev Build := StateM Builder

namespace Builder

/-- A builder that has not seen anything. -/
def start : Builder :=
  { tree := Construction.empty, part := .initial, returnPart := .initial, templateParts := []
    stack := [], formatting := [], head := none, form := none, framesetOk := true
    ignoreLineFeed := false, fostering := false, tableText := [] }

/-- Tag and attributes of an open element. -/
def element (b : Builder) (n : NodeId) : Element := (b.tree.element? n).getD ⟨"", .other "", []⟩

/-- Whether a node belongs to a class of elements. -/
def isIn (b : Builder) (c : ElementClass) (n : NodeId) : Bool := c (b.element n)

/-- Whether the innermost open element belongs to a class. -/
def currentIsIn (b : Builder) (c : ElementClass) : Bool := b.stack.head?.any (b.isIn c)

/-- Whether an open element that satisfies a test is reached before the first of a class is
passed. -/
def inScopeThat (b : Builder) (limit : ElementClass) (test : NodeId → Bool) : Bool :=
  go b.stack
where
  /-- The search through the open elements. -/
  go : List NodeId → Bool
    | [] => false
    | n :: rest => test n || (!b.isIn limit n && go rest)

/-- Whether an open HTML element of a tag is reached before the first of a class is passed. -/
def inScope (b : Builder) (limit : ElementClass) (tag : String) : Bool :=
  b.inScopeThat limit (b.isIn (.named tag))

/-- Whether an HTML element of a tag is open. -/
def hasOpen (b : Builder) (tag : String) : Bool := b.stack.any (b.isIn (.named tag))

/-- The outermost open element. -/
def root? (b : Builder) : Option NodeId := b.stack.getLast?

/-- The body, if it is the second open element. -/
def body? (b : Builder) : Option NodeId :=
  (b.stack.reverse[1]?).filter (b.isIn (.named "body"))

/-- Where a node is to be put. -/
inductive Place where
  | endOf (parent : NodeId)
  | beforeTable (table below : NodeId)
deriving DecidableEq, Repr

/-- Where content that may not stand in a table goes: into the nearest open template, or before the
nearest open table. -/
def fosterPlace (b : Builder) : List NodeId → Place
  | [] => .endOf (b.root?.getD Construction.root)
  | n :: rest =>
    if b.isIn (.named "template") n then .endOf n
    else if b.isIn (.named "table") n then .beforeTable n (rest.head?.getD Construction.root)
    else b.fosterPlace rest

/-- Where a node goes that is meant for `target`. -/
def placeFor (b : Builder) (target : NodeId) : Place :=
  if b.fostering && b.isIn .fosterTarget target then b.fosterPlace b.stack else .endOf target

end Builder

namespace Build

open Builder (Place)

/-- Applies a function to the tree. -/
def onTree (f : Construction → Construction) : Build Unit :=
  modify fun b => { b with tree := f b.tree }

/-- Goes to another part of the document. -/
def enter (part : Part) : Build Unit := modify fun b => { b with part }

/-- Goes to another part of the document with the same token. -/
def enterAgain (part : Part) : Build Outcome := do
  enter part
  return .again

/-- Creates an element that is nowhere yet. -/
def create (vocabulary : Vocabulary) (tag : Tag) : Build NodeId :=
  modifyGet fun b =>
    let (n, tree) := b.tree.create (.element ⟨tag.name, vocabulary, tag.attributes⟩)
    (n, { b with tree })

/-- Puts a child where it belongs if it is meant for `target`, or for the innermost open element. -/
def insertAt (target : Option NodeId) (child : Dom.Child) : Build Unit :=
  modify fun b =>
    let target := (target.or b.stack.head?).getD Construction.root
    match b.placeFor target with
    | .endOf parent => { b with tree := b.tree.append parent child }
    | .beforeTable table below => { b with tree := b.tree.insertFostered table below child }

/-- Opens an element. -/
def push (n : NodeId) : Build Unit := modify fun b => { b with stack := n :: b.stack }

/-- Closes the innermost open element. -/
def pop : Build Unit := modify fun b => { b with stack := b.stack.tail }

/-- Takes an element out of the open ones. -/
def removeOpen (n : NodeId) : Build Unit :=
  modify fun b => { b with stack := b.stack.filter (· != n) }

/-- Inserts an element of a vocabulary, and opens it if `opening`. -/
def insertElement (vocabulary : Vocabulary) (opening : Bool) (tag : Tag) : Build NodeId := do
  let n ← create vocabulary tag
  insertAt none (.node n)
  if opening then push n
  return n

/-- Inserts an HTML element and opens it. -/
def insert (tag : Tag) : Build NodeId := insertElement .html true tag

/-- Inserts an HTML element that stays empty. -/
def insertEmpty (tag : Tag) : Build NodeId := insertElement .html false tag

/-- Inserts and opens an HTML element that the text does not mention. -/
def insertImplied (name : String) : Build NodeId := insert ⟨name, [], false⟩

/-- Inserts a character. -/
def insertChar (c : Char) : Build Unit := insertAt none (.text (String.singleton c))

/-- Inserts a comment. -/
def insertComment : Build Unit := do
  let b ← get
  let (n, tree) := b.tree.create (.text "")
  set { b with tree }
  insertAt none (.node n)

/-- Puts a comment at the end of a node. -/
def commentAt (parent : NodeId) : Build Unit :=
  onTree fun tree =>
    let (n, tree) := tree.create (.text "")
    tree.append parent (.node n)

/-- Creates the document element. -/
def createRoot (tag : Tag) : Build Unit := do
  let n ← create .html tag
  push n
  onTree fun tree => tree.append Construction.root (.node n)

/-- Closes open elements up to and including the first of a class. -/
def popThrough (c : ElementClass) : Build Unit :=
  modify fun b => { b with stack := (b.stack.dropWhile fun n => !b.isIn c n).tail }

/-- Closes open elements up to and including the first of a tag. -/
def popNamed (tag : String) : Build Unit := popThrough (.named tag)

/-- Closes open elements until the innermost one belongs to a class. -/
def popTo (c : ElementClass) : Build Unit :=
  modify fun b => { b with stack := b.stack.dropWhile fun n => !b.isIn c n }

/-- Closes open elements as long as the innermost one belongs to a class. -/
def popWhile (c : ElementClass) : Build Unit :=
  modify fun b => { b with stack := b.stack.dropWhile (b.isIn c) }

/-- Closes the innermost elements whose end tag may be left out, but none of a tag. -/
def closeImpliedBut (tag : String) : Build Unit :=
  popWhile fun e => ElementClass.impliedEnd e && !ElementClass.named tag e

/-- Closes the innermost elements whose end tag may be left out. -/
def closeImplied : Build Unit := popWhile .impliedEnd

/-- Closes a paragraph with all that is open in it. -/
def closeParagraph : Build Unit := do
  closeImpliedBut "p"
  popNamed "p"

/-- Closes the paragraph that is open in button scope, if there is one. -/
def closeOpenParagraph : Build Unit := do
  if (← get).inScope .buttonScope "p" then closeParagraph

/-- Notes that something stands in the body that rules out a frameset. -/
def notFrameset : Build Unit := modify fun b => { b with framesetOk := false }

/-- Goes to the text of an element that was just opened. -/
def enterText (kind : TextKind) : Build Outcome := do
  modify fun b => { b with returnPart := b.part, part := .text }
  return .read kind

/-- Inserts an element whose content is text. -/
def insertTextElement (tag : Tag) (kind : TextKind) : Build Outcome := do
  let _ ← insert tag
  enterText kind

/-- Goes back to the part from which text was entered. -/
def leaveText : Build Unit := modify fun b => { b with part := b.returnPart }

/-- Puts a boundary into the list of formatting. -/
def pushMarker : Build Unit := modify fun b => { b with formatting := .marker :: b.formatting }

/-- Drops the formatting down to the last boundary, and the boundary. -/
def clearFormatting : Build Unit :=
  modify fun b => { b with formatting := (b.formatting.dropWhile (· != .marker)).tail }

/-- The part of the document that the open elements `stack` put a builder in. -/
def partOf (b : Builder) : (stack : List NodeId) → Part
  | [] => .inBody
  | n :: rest =>
    let e := b.element n
    let outermost := rest.isEmpty
    if e.vocabulary != .html then partOf b rest
    else if e.tag == "select" then
      match rest.find? (b.isIn (.oneOf ["template", "table"])) with
      | some m => if b.isIn (.named "table") m then .inSelectInTable else .inSelect
      | none => .inSelect
    else if ElementClass.cell e && !outermost then .inCell
    else if e.tag == "tr" then .inRow
    else if ElementClass.oneOf ["tbody", "thead", "tfoot"] e then .inTableBody
    else if e.tag == "caption" then .inCaption
    else if e.tag == "colgroup" then .inColumnGroup
    else if e.tag == "table" then .inTable
    else if e.tag == "template" then b.templateParts.head?.getD .inBody
    else if e.tag == "head" && !outermost then .inHead
    else if e.tag == "body" then .inBody
    else if e.tag == "frameset" then .inFrameset
    else if e.tag == "html" then if b.head.isNone then .beforeHead else .afterHead
    else partOf b rest

/-- Goes to the part of the document that the open elements put the builder in. -/
def resetPart : Build Unit := modify fun b => { b with part := partOf b b.stack }

/-- Puts another part in the place of that of the innermost template. -/
def setTemplatePart (part : Part) : Build Outcome := do
  modify fun b => { b with templateParts := part :: b.templateParts.tail }
  enterAgain part

/-- Gives the outermost open element the attributes of a second `html` tag. -/
def mergeRoot (tag : Tag) : Build Unit := do
  let b ← get
  if !b.hasOpen "template" then
    match b.root? with
    | some n => onTree fun tree => tree.addMissing n tag.attributes
    | none => pure ()

end Build

end MediaQuery.Html
