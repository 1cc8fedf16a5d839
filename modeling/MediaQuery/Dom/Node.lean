import MediaQuery.Dom.Element

/-!
# Trees of nodes

A node is a text or an element with its children. Every node carries an identity, so that a node
that was put into a tree can be found and taken out again however many nodes look like it.

Comments and processing instructions are kept as texts that hold nothing.
-/

namespace MediaQuery.Dom

/-- The identity of a node. -/
abbrev NodeId := Nat

/-- A text, or an element with its children. -/
inductive Node where
  | text (id : NodeId) (content : String)
  | element (id : NodeId) (element : Element) (children : List Node)

namespace Node

/-- The identity of a node. -/
def id : Node → NodeId
  | text id _ => id
  | element id _ _ => id

/-- The children of a node; a text has none. -/
def children : Node → List Node
  | text _ _ => []
  | element _ _ children => children

/-- Tag and attributes of a node, if it is an element. -/
def element? : Node → Option Element
  | text _ _ => none
  | element _ e _ => some e

/-- The content of a text. -/
def content? : Node → Option String
  | text _ content => some content
  | element _ _ _ => none

/-- Whether the node is an element. -/
def isElement (n : Node) : Bool := n.element?.isSome

/-- Whether the node is an element of a tag, ASCII case set aside. -/
def isTagged (n : Node) (tag : String) : Bool := n.element?.any (·.is tag)

/-- The texts directly below a node, joined. -/
def textContent (n : Node) : String := String.join (n.children.filterMap content?)

/-- An element of style text for one media type, under two identities. -/
def style (id textId : NodeId) (media css : String) : Node :=
  element id (Element.style media) [text textId css]

mutual

/-- The nodes of a tree in document order, each with its depth. -/
def listing (depth : Nat) : Node → List (Nat × Node)
  | text id content => [(depth, text id content)]
  | element id e children => (depth, element id e children) :: listingAll (depth + 1) children

/-- The nodes of a list of trees in document order, each with its depth. -/
def listingAll (depth : Nat) : List Node → List (Nat × Node)
  | [] => []
  | n :: rest => listing depth n ++ listingAll depth rest

end

mutual

/-- The identities that occur in a tree, in document order. -/
def ids : Node → List NodeId
  | text id _ => [id]
  | element id _ children => id :: idsAll children

/-- The identities that occur in a list of trees, in document order. -/
def idsAll : List Node → List NodeId
  | [] => []
  | n :: rest => ids n ++ idsAll rest

end

/-- An identity from `least` on that no node of some trees has, and none after it either. -/
def unusedId (least : NodeId) (nodes : List Node) : NodeId :=
  (idsAll nodes).foldl (fun next id => max next (id + 1)) least

mutual

/-- The elements of a tag in a tree, the root included, in document order. -/
def collect (tag : String) : Node → List Node
  | text _ _ => []
  | element id e children =>
    if e.is tag then element id e children :: collectAll tag children else collectAll tag children

/-- The elements of a tag in a list of trees, in document order. -/
def collectAll (tag : String) : List Node → List Node
  | [] => []
  | n :: rest => collect tag n ++ collectAll tag rest

end

@[simp] theorem id_style (id textId : NodeId) (media css : String) :
    (style id textId media css).id = id := rfl

@[simp] theorem textContent_style (id textId : NodeId) (media css : String) :
    (style id textId media css).textContent = css := by
  simp [style, textContent, children, content?, String.join]

theorem idsAll_append (a b : List Node) : idsAll (a ++ b) = idsAll a ++ idsAll b := by
  induction a with
  | nil => rfl
  | cons n rest ih => simp [idsAll, ih]

theorem collectAll_append (tag : String) (a b : List Node) :
    collectAll tag (a ++ b) = collectAll tag a ++ collectAll tag b := by
  induction a with
  | nil => rfl
  | cons n rest ih => simp [collectAll, ih]

end Node

end MediaQuery.Dom
