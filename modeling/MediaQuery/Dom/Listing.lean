import MediaQuery.Dom.Construction

/-!
# Listings

A listing gives the nodes of a document in document order, one row for each, with its depth; a row
belongs to the nearest row before it that is one level higher. Reading a listing numbers the nodes
by their rows, counted from one.
-/

namespace MediaQuery.Dom

/-- A node of a listing, and how deep it lies. -/
structure Row where
  depth : Nat
  content : Content
deriving DecidableEq, Repr

namespace Row

/-- Adds the node of a row. `path` holds the document and the last node of each depth. -/
def attach (state : Construction × List NodeId) (row : Row) : Construction × List NodeId :=
  let (c, path) := state
  let above := path.take (row.depth + 1)
  let (n, c) := c.create row.content
  (c.append (above.getLast?.getD Construction.root) (.node n), above ++ [n])

/-- The document that a listing describes. -/
def construct (rows : List Row) : Construction :=
  (rows.foldl attach (Construction.empty, [Construction.root])).1

/-- What a node of a tree is, apart from its children. -/
def contentOf : Node → Content
  | .text _ content => .text content
  | .element _ e _ => .element e

end Row

/-- The listing of a document. -/
def Document.rows (d : Document) : List Row :=
  d.listing.map fun (depth, n) => ⟨depth, Row.contentOf n⟩

end MediaQuery.Dom
