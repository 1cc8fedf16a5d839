import MediaQuery.Condition.Read
import MediaQuery.Css.Reference
import MediaQuery.Css.Scan

/-!
# Stylesheets as guarded blocks

A stylesheet is a list of blocks, each with the conditions under which it applies. They are its
top-level `@media` blocks; if it has none, a media attribute on the link that loaded the sheet
guards the sheet as a whole. A sheet with neither has no guarded block at all.
-/

namespace MediaQuery

/-- Style text and the conditions of which one must hold for it to apply. -/
structure MediaBlock where
  conditions : List Condition
  /-- The style text, its relative references made to carry the directory of the sheet. -/
  body : String

namespace MediaBlock

/-- The block that a media query list guards, in a sheet that lies in `dir`. -/
def guarded (query body dir : List Char) : MediaBlock :=
  ⟨Condition.readList query, String.ofList (Css.relocate body dir)⟩

/-- The guarded blocks of the stylesheet `text` found at `href`, loaded with the media attribute
`media`. -/
def ofSheet (text href : String) (media : Option String) : List MediaBlock :=
  let dir := Css.directory href.toList
  match Css.mediaBlocks text.toList with
  | [] =>
    match (media.map fun m => Blank.trim m.toList).filter (fun m => !m.isEmpty) with
    | some query => [guarded query text.toList dir]
    | none => []
  | blocks => blocks.map fun block => guarded block.prelude block.body dir

end MediaBlock

end MediaQuery
