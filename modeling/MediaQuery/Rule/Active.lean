import MediaQuery.Log
import MediaQuery.Rule.Store

/-!
# What is active at a width

At a width some conditions of a store hold. The style text that they guard is gathered by media
type: the types in the order in which they first occur, and the texts of each in the order of the
store, once for every condition that holds.

Live queries take no part in this. Whether one matches is whether any of its conditions holds.
-/

namespace MediaQuery

/-- The style text that is active for one media type. -/
structure Bucket where
  mediaType : String
  fragments : List String
deriving DecidableEq, Repr

/-- The style text of a bucket, one fragment to a line. -/
def Bucket.css (b : Bucket) : String := "\n".intercalate b.fragments

/-- The style text that is active, by media type. -/
structure ActiveSet where
  buckets : List Bucket
deriving DecidableEq, Repr

/-- Puts style text into the bucket of its media type, or into a new one at the end. -/
def Bucket.insert (mediaType css : String) : List Bucket → List Bucket
  | [] => [⟨mediaType, [css]⟩]
  | b :: rest =>
    if b.mediaType == mediaType then { b with fragments := b.fragments ++ [css] } :: rest
    else b :: insert mediaType css rest

namespace ActiveSet

/-- Nothing is active. -/
def empty : ActiveSet := ⟨[]⟩

/-- Whether nothing is active. -/
def isEmpty (a : ActiveSet) : Bool := a.buckets.isEmpty

/-- Adds style text for a media type. -/
def push (a : ActiveSet) (mediaType css : String) : ActiveSet :=
  ⟨Bucket.insert mediaType css a.buckets⟩

/-- The bucket of a media type. -/
def get? (a : ActiveSet) (mediaType : String) : Option Bucket :=
  a.buckets.find? (·.mediaType == mediaType)

/-- Style texts with their media types, gathered. -/
def ofList (texts : List (String × String)) : ActiveSet :=
  texts.foldl (fun a text => a.push text.1 text.2) empty

end ActiveSet

namespace RuleStore

/-- The media type and the style text of a descriptor, if its condition holds at a width. -/
def activeText? (s : RuleStore) (width : Float) (d : Descriptor) : Option (String × String) :=
  if d.condition.isActive width then
    ((s.body? d.rule).bind RuleBody.css?).map fun css => (d.condition.mediaType, css)
  else none

/-- The style texts that are active at a width, with their media types, in the order of the
descriptors. -/
def activeTexts (s : RuleStore) (width : Float) : List (String × String) :=
  s.descriptors.filterMap (s.activeText? width)

/-- What is active at a width. -/
def activeAt (s : RuleStore) (width : Float) : ActiveSet := ActiveSet.ofList (s.activeTexts width)

/-- Whether any condition of a live query holds at a width. -/
def matchesAt (s : RuleStore) (width : Float) (number : Nat) : Bool :=
  s.descriptors.any fun d =>
    d.condition.isActive width && (s.body? d.rule).bind RuleBody.query? == some number

/-- What there is to tell about the conditions at a width. -/
def testedAt (s : RuleStore) (width : Float) : List Log.Entry :=
  s.descriptors.map fun d => .tested d.condition width (d.condition.isActive width)

end RuleStore

end MediaQuery
