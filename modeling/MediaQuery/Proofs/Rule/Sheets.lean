import MediaQuery.Proofs.Rule.Placement

/-!
# Style elements are no links

What a document links to, and against which base, is the same before and after style elements were
put into its head: they are neither links nor bases, and all that is around them stays where it is.
`elementsTagged` is what such questions look at: the elements of a tag, without what is below them.
-/

namespace MediaQuery

namespace Dom

/-- The elements of a tag in some trees, without their children, in document order. -/
def elementsTagged (tag : String) (nodes : List Node) : List (Option Element) :=
  (Node.collectAll tag nodes).map Node.element?

variable {tag : String} {children children' : List Node}

theorem elementsTagged_append (a b : List Node) :
    elementsTagged tag (a ++ b) = elementsTagged tag a ++ elementsTagged tag b := by
  rw [elementsTagged, Node.collectAll_append, List.map_append]
  rfl

/-- An element comes before those below it. -/
theorem map_element?_collect (id : NodeId) (e : Element) (children : List Node) :
    ((Node.element id e children).collect tag).map Node.element? =
      (if e.is tag then [some e] else []) ++ elementsTagged tag children := by
  rw [Node.collect]
  split <;> rfl

theorem elementsTagged_cons (n : Node) (rest : List Node) :
    elementsTagged tag (n :: rest) =
      (n.collect tag).map Node.element? ++ elementsTagged tag rest := by
  rw [elementsTagged, Node.collectAll, List.map_append]
  rfl

/-- What is around some nodes does not matter as long as they have the same elements of a tag. -/
theorem elementsTagged_fillAll_congr (path : List Layer)
    (h : elementsTagged tag children' = elementsTagged tag children) :
    elementsTagged tag (fillAll path children') = elementsTagged tag (fillAll path children) := by
  induction path with
  | nil => exact h
  | cons l path ih =>
    rw [fillAll_cons, fillAll_cons, Layer.fill, Layer.fill, elementsTagged_append,
      elementsTagged_append, elementsTagged_cons, elementsTagged_cons, map_element?_collect,
      map_element?_collect, ih]

namespace Document

variable {d d' : Document} {path : List Layer}

theorem stylesheetLinks_eq (d : Document) :
    d.stylesheetLinks = match d.head? with
      | some head => ((head.collect "link").map Node.element?).filterMap
          (·.bind Element.stylesheetLink?)
      | none => [] := by
  unfold stylesheetLinks
  cases d.head? with
  | none => rfl
  | some head =>
    simp only [List.filterMap_map]
    rfl

theorem baseHref?_eq (d : Document) :
    d.baseHref? = (elementsTagged "base" d.children).findSome? (·.bind (·.attr? "href")) := by
  rw [elementsTagged, List.findSome?_map]
  rfl

/-- With the same links among the children of its head a document links to the same stylesheets. -/
theorem stylesheetLinks_congr (h : HeadAt d.children path children)
    (h' : HeadAt d'.children path children')
    (hlinks : elementsTagged "link" children' = elementsTagged "link" children) :
    d'.stylesheetLinks = d.stylesheetLinks := by
  rw [stylesheetLinks_eq, stylesheetLinks_eq, head?_of_headAt h, head?_of_headAt h']
  cases path.getLast? with
  | none => rfl
  | some l => simp only [Option.map_some, map_element?_collect, hlinks]

theorem baseHref?_congr (h : HeadAt d.children path children)
    (h' : HeadAt d'.children path children')
    (hbases : elementsTagged "base" children' = elementsTagged "base" children) :
    d'.baseHref? = d.baseHref? := by
  rw [baseHref?_eq, baseHref?_eq, h.eq_fillAll, h'.eq_fillAll,
    elementsTagged_fillAll_congr path hbases]

end Document

end Dom

open Dom (Document Node elementsTagged)

namespace Injection

/-- There are only elements of style among style elements. -/
theorem elementsTagged_elements {tag : String} (htag : Ascii.sameName "style" tag = false)
    (next : Dom.NodeId) (buckets : List Bucket) :
    elementsTagged tag (elements next buckets) = [] := by
  induction buckets generalizing next with
  | nil => rfl
  | cons b rest ih =>
    have his : (Dom.Element.style b.mediaType).is tag = false := htag
    rw [elements, Dom.elementsTagged_cons, ih, Node.style, Dom.map_element?_collect, his]
    rfl

theorem elementsTagged_arrange {tag : String} (htag : Ascii.sameName "style" tag = false)
    (next : Dom.NodeId) (buckets : List Bucket) (children : List Node) :
    elementsTagged tag (arrange [] (elements next buckets) children) =
      elementsTagged tag children := by
  have hsplit := congrArg (elementsTagged tag) (splitAtLastLink_append children)
  rw [Dom.elementsTagged_append] at hsplit
  rw [arrange_nil, Dom.elementsTagged_append, Dom.elementsTagged_append,
    elementsTagged_elements htag, List.append_nil, hsplit]

end Injection

namespace IsStyled

open Injection

variable {d document : Document} {buckets : List Bucket} {injected : List Node}

/-- Style elements change neither what a document links to nor its base. -/
theorem links_eq (h : IsStyled d buckets document injected) :
    document.stylesheetLinks = d.stylesheetLinks ∧ document.baseHref? = d.baseHref? := by
  cases h with
  | noHead => exact ⟨rfl, rfl⟩
  | @head children h next last hnext hlast =>
    obtain ⟨path, hat⟩ := Document.exists_headAt h
    have hat' := headAt_arrange hat [] next buckets
    exact ⟨Document.stylesheetLinks_congr hat hat' (elementsTagged_arrange (by decide) _ _ _),
      Document.baseHref?_congr hat hat' (elementsTagged_arrange (by decide) _ _ _)⟩

end IsStyled

end MediaQuery
