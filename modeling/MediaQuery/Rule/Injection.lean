import MediaQuery.Dom.Document
import MediaQuery.Rule.Active

/-!
# Style elements in the head

What is active is put into the head of a document, one style element for each media type, behind the
last link or at the end. The elements put there before are taken out first; they are known by their
identity, so elements of the page that look alike stay.
-/

namespace MediaQuery

open Dom (Document Node NodeId)

namespace Injection

/-- Style elements for buckets, with identities from `next` on, two for each. -/
def elements : (next : NodeId) → List Bucket → List Node
  | _, [] => []
  | next, b :: rest => Node.style next (next + 1) b.mediaType b.css :: elements (next + 2) rest

/-- The nodes of a list that are not among the ones put there before. -/
def remove (previous children : List Node) : List Node :=
  children.filter fun child => !previous.any fun old => old.id == child.id

/-- Splits a list of nodes behind its last link, or at its end if it has none. -/
def splitAtLastLink (children : List Node) : List Node × List Node :=
  match children.reverse.findIdx? (·.isTagged "link") with
  | some behind => children.splitAt (children.length - behind)
  | none => (children, [])

/-- The children of the head with other style elements in the place of the previous ones. -/
def arrange (previous styles children : List Node) : List Node :=
  let (before, after) := splitAtLastLink (remove previous children)
  before ++ styles ++ after

/-- A document and the style elements that were put into it. -/
structure Result where
  document : Document
  injected : List Node
  entry : Log.Entry

/-- Puts what is active into the head of a document, in the place of what was put there before. -/
def inject (d : Document) (previous : List Node) (active : ActiveSet) : Result :=
  match d.headChildren? with
  | none => ⟨d, [], .noHead⟩
  | some children =>
    let styles := elements d.nextId active.buckets
    let d := d.withHeadChildren (arrange previous styles children)
    ⟨{ d with nextId := d.nextId + 2 * active.buckets.length }, styles,
      .replaced previous.length styles.length⟩

@[simp] theorem length_elements (next : NodeId) (buckets : List Bucket) :
    (elements next buckets).length = buckets.length := by
  induction buckets generalizing next with
  | nil => rfl
  | cons b rest ih => simp [elements, ih]

/-- Nothing is lost in the split. -/
theorem splitAtLastLink_append (children : List Node) :
    (splitAtLastLink children).1 ++ (splitAtLastLink children).2 = children := by
  unfold splitAtLastLink
  split <;> simp

end Injection

end MediaQuery
