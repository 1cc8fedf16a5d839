import MediaQuery.Html.Builder.Head

/-!
# Rules of the body

Most of a document is read by these rules, and the rules of other parts fall back on them. Start
tags and end tags are dealt with by groups; a group is a function that says nothing about tags
outside it.
-/

namespace MediaQuery.Html.Build

open Dom (NodeId Vocabulary)

/-- Does something and is done with the token. -/
def completing (action : Build Unit) : Build Outcome := do
  action
  return .done

/-- Opens an element. -/
def opening (tag : Tag) : Build Unit := discard (insert tag)

/-- Opens an element after closing an open paragraph. -/
def openingBlock (tag : Tag) : Build Unit := do
  closeOpenParagraph
  opening tag

/-- Opens an element after carrying formatting on. -/
def openingInline (tag : Tag) : Build Unit := do
  reopenFormatting
  opening tag

/-! ## Foreign elements -/

/-- SVG tags that are written with capitals. -/
def svgTags : List String :=
  ["altGlyph", "altGlyphDef", "altGlyphItem", "animateColor", "animateMotion", "animateTransform",
    "clipPath", "feBlend", "feColorMatrix", "feComponentTransfer", "feComposite",
    "feConvolveMatrix", "feDiffuseLighting", "feDisplacementMap", "feDistantLight",
    "feDropShadow", "feFlood", "feFuncA", "feFuncB", "feFuncG", "feFuncR", "feGaussianBlur",
    "feImage", "feMerge", "feMergeNode", "feMorphology", "feOffset", "fePointLight",
    "feSpecularLighting", "feSpotLight", "feTile", "feTurbulence", "foreignObject", "glyphRef",
    "linearGradient", "radialGradient", "textPath"]

/-- SVG attributes that are written with capitals. -/
def svgAttributes : List String :=
  ["attributeName", "attributeType", "baseFrequency", "baseProfile", "calcMode", "clipPathUnits",
    "diffuseConstant", "edgeMode", "filterUnits", "glyphRef", "gradientTransform",
    "gradientUnits", "kernelMatrix", "kernelUnitLength", "keyPoints", "keySplines", "keyTimes",
    "lengthAdjust", "limitingConeAngle", "markerHeight", "markerUnits", "markerWidth",
    "maskContentUnits", "maskUnits", "numOctaves", "pathLength", "patternContentUnits",
    "patternTransform", "patternUnits", "pointsAtX", "pointsAtY", "pointsAtZ", "preserveAlpha",
    "preserveAspectRatio", "primitiveUnits", "refX", "refY", "repeatCount", "repeatDur",
    "requiredExtensions", "requiredFeatures", "specularConstant", "specularExponent",
    "spreadMethod", "startOffset", "stdDeviation", "stitchTiles", "surfaceScale",
    "systemLanguage", "tableValues", "targetX", "targetY", "textLength", "viewBox", "viewTarget",
    "xChannelSelector", "yChannelSelector", "zoomAndPan"]

/-- Attributes that belong to a namespace of their own; of their names the second part counts. -/
def spacedAttributes : List (String × String) :=
  [("xlink:actuate", "actuate"), ("xlink:arcrole", "arcrole"), ("xlink:href", "href"),
    ("xlink:role", "role"), ("xlink:show", "show"), ("xlink:title", "title"),
    ("xlink:type", "type"), ("xml:lang", "lang"), ("xml:space", "space"),
    ("xmlns:xlink", "xlink")]

/-- The spelling of a name that a list gives, letter case set aside. -/
def respell (spellings : List String) (name : String) : String :=
  (spellings.find? fun s => Ascii.lowerString s == name).getD name

/-- The name of an attribute of a foreign element. -/
def foreignAttribute (vocabulary : Vocabulary) (name : String) : String :=
  let spelled :=
    match vocabulary with
    | .svg => respell svgAttributes name
    | .mathml => respell ["definitionURL"] name
    | _ => name
  (spacedAttributes.lookup spelled).getD spelled

/-- Inserts a foreign element; a tag that closes itself does not open it. -/
def insertForeign (vocabulary : Vocabulary) (tag : Tag) : Build Outcome := do
  let attributes := tag.attributes.map fun a =>
    { a with name := foreignAttribute vocabulary a.name }
  let _ ← insertElement vocabulary (!tag.selfClosing) { tag with attributes }
  return .done

/-! ## Start tags -/

/-- Opens a list item or a description after closing the one before it. -/
def openItem (tag : Tag) : Build Unit := do
  notFrameset
  let siblings := if tag.name == "li" then ["li"] else ["dd", "dt"]
  let limit : ElementClass := fun e =>
    ElementClass.oneOf siblings e ||
      (ElementClass.special e && !ElementClass.oneOf ["address", "div", "p"] e)
  let b ← get
  match b.stack.find? (b.isIn limit) with
  | some n =>
    let e := b.element n
    if ElementClass.oneOf siblings e then
      closeImpliedBut e.tag
      popNamed e.tag
  | none => pure ()
  openingBlock tag

/-- Opens a form, unless one is open. -/
def openForm (tag : Tag) : Build Unit := do
  let b ← get
  let inTemplate := b.hasOpen "template"
  if b.form.isNone || inTemplate then
    closeOpenParagraph
    let n ← insert tag
    if !inTemplate then modify fun b => { b with form := some n }

/-- Opens a button after closing the one that is open. -/
def openButton (tag : Tag) : Build Unit := do
  if (← get).inScope .scope "button" then
    closeImplied
    popNamed "button"
  openingInline tag
  notFrameset

/-- Replaces a body that holds nothing of weight by a frameset. -/
def openFrameset (tag : Tag) : Build Unit := do
  let b ← get
  match b.framesetOk, b.body? with
  | true, some body =>
    onTree (·.detach body)
    modify fun b => { b with stack := b.root?.toList }
    opening tag
    enter .inFrameset
  | _, _ => pure ()

/-- Gives the body the attributes of a second `body` tag. -/
def mergeBody (tag : Tag) : Build Unit := do
  let b ← get
  match b.body? with
  | some body =>
    if !b.hasOpen "template" then
      notFrameset
      onTree fun tree => tree.addMissing body tag.attributes
  | none => pure ()

/-- Start tags of blocks. -/
def blockStart? (tag : Tag) : Option (Build Unit) :=
  if blockTags.contains tag.name then some (openingBlock tag)
  else if headingTags.contains tag.name then
    some do
      closeOpenParagraph
      if (← get).currentIsIn .heading then pop
      opening tag
  else if tag.name == "pre" || tag.name == "listing" then
    some do
      openingBlock tag
      modify fun b => { b with ignoreLineFeed := true, framesetOk := false }
  else if tag.name == "form" then some (openForm tag)
  else if ["li", "dd", "dt"].contains tag.name then some (openItem tag)
  else if tag.name == "hr" then
    some do
      closeOpenParagraph
      let _ ← insertEmpty tag
      notFrameset
  else if tag.name == "table" then
    some do
      if (← get).tree.mode != .quirks then closeOpenParagraph
      opening tag
      notFrameset
      enter .inTable
  else none

/-- Start tags of formatting and of what stands in a line. -/
def inlineStart? (tag : Tag) : Option (Build Unit) :=
  if tag.name == "a" then
    some do
      endOpenLink
      reopenFormatting
      insertFormatting tag
  else if formattingTags.contains tag.name then
    some do
      reopenFormatting
      insertFormatting tag
  else if tag.name == "nobr" then
    some do
      reopenFormatting
      if (← get).inScope .scope "nobr" then
        adopt "nobr"
        reopenFormatting
      insertFormatting tag
  else if tag.name == "button" then some (openButton tag)
  else if ["applet", "marquee", "object"].contains tag.name then
    some do
      openingInline tag
      pushMarker
      notFrameset
  else if ["area", "br", "embed", "img", "image", "keygen", "wbr", "input"].contains tag.name then
    some do
      reopenFormatting
      let _ ← insertEmpty (if tag.name == "image" then { tag with name := "img" } else tag)
      if !(tag.name == "input" && tag.isHidden) then notFrameset
  else if ["param", "source", "track"].contains tag.name then some (discard (insertEmpty tag))
  else if tag.name == "select" then
    some do
      openingInline tag
      notFrameset
      let inTable := [Part.inTable, .inCaption, .inTableBody, .inRow, .inCell]
      enter (if inTable.contains (← get).part then .inSelectInTable else .inSelect)
  else if tag.name == "optgroup" || tag.name == "option" then
    some do
      if (← get).currentIsIn (.named "option") then pop
      openingInline tag
  else if tag.name == "rb" || tag.name == "rtc" then
    some do
      if (← get).inScope .scope "ruby" then closeImplied
      opening tag
  else if tag.name == "rp" || tag.name == "rt" then
    some do
      if (← get).inScope .scope "ruby" then closeImpliedBut "rtc"
      opening tag
  else none

/-- Start tags of elements whose content is text. -/
def textStart? (tag : Tag) : Option (Build Outcome) :=
  if tag.name == "textarea" then
    some do
      modify fun b => { b with ignoreLineFeed := true, framesetOk := false }
      insertTextElement tag .escapable
  else if tag.name == "xmp" then
    some do
      closeOpenParagraph
      reopenFormatting
      notFrameset
      insertTextElement tag .raw
  else if tag.name == "iframe" then
    some do
      notFrameset
      insertTextElement tag .raw
  else if tag.name == "noembed" || tag.name == "noscript" then some (insertTextElement tag .raw)
  else if tag.name == "plaintext" then
    some do
      openingBlock tag
      return .read .plain
  else none

/-- Start tags that mean nothing in the body. -/
def strayStartTags : List String := "frame" :: "head" :: tableTags

/-- Rules for start tags in the body. -/
def bodyStart (tag : Tag) : Build Outcome :=
  if tag.name == "html" then completing (mergeRoot tag)
  else if headTags.contains tag.name then headTag tag
  else if tag.name == "body" then completing (mergeBody tag)
  else if tag.name == "frameset" then completing (openFrameset tag)
  else if tag.name == "math" then insertForeign .mathml tag
  else if tag.name == "svg" then insertForeign .svg tag
  else if strayStartTags.contains tag.name then return .done
  else
    match blockStart? tag, inlineStart? tag, textStart? tag with
    | some action, _, _ => completing action
    | none, some action, _ => completing action
    | none, none, some action => action
    | none, none, none => completing (openingInline tag)

/-! ## End tags -/

/-- Closes elements up to and including the nearest of a tag, if that is in scope. -/
def closeInScope (limit : ElementClass) (tag : String) : Build Unit := do
  if (← get).inScope limit tag then
    closeImpliedBut tag
    popNamed tag

/-- Closes the open form. -/
def closeForm : Build Unit := do
  let b ← get
  if b.hasOpen "template" then
    if b.inScope .scope "form" then
      closeImplied
      popNamed "form"
  else
    modify fun b => { b with form := none }
    match b.form with
    | some n =>
      if b.inScopeThat .scope (· == n) then
        closeImplied
        removeOpen n
    | none => pure ()

/-- Rules for end tags in the body. -/
def bodyEnd (tag : Tag) : Build Outcome := do
  let name := tag.name
  if name == "template" then closeTemplate
  else if name == "body" then
    if (← get).inScope .scope "body" then enter .afterBody
    return .done
  else if name == "html" then
    if (← get).inScope .scope "body" then enterAgain .afterBody else return .done
  else if blockEndTags.contains name then
    completing do
      if (← get).inScope .scope name then
        closeImplied
        popNamed name
  else if name == "form" then completing closeForm
  else if name == "p" then
    completing do
      if !(← get).inScope .buttonScope "p" then discard (insertImplied "p")
      closeParagraph
  else if name == "li" then completing (closeInScope .listScope name)
  else if name == "dd" || name == "dt" then completing (closeInScope .scope name)
  else if headingTags.contains name then
    completing do
      let b ← get
      if b.inScopeThat .scope (b.isIn .heading) then
        closeImplied
        popThrough .heading
  else if name == "a" || name == "nobr" || formattingTags.contains name then completing (adopt name)
  else if ["applet", "marquee", "object"].contains name then
    completing do
      if (← get).inScope .scope name then
        closeImplied
        popNamed name
        clearFormatting
  else if name == "br" then bodyStart { tag with attributes := [] }
  else completing (closeNearest name)

/-- Rules for the end of the text within open templates. -/
def finishTemplates : Build Outcome := do
  if (← get).hasOpen "template" then
    popNamed "template"
    clearFormatting
    modify fun b => { b with templateParts := b.templateParts.tail }
    resetPart
    return .again
  else return .done

/-- Rules in the body. -/
def inBody : Token → Build Outcome
  | .char c =>
    if c == '\x00' then return .done
    else
      completing do
        reopenFormatting
        if !Ascii.isSpace c then notFrameset
        insertChar c
  | .comment => completing insertComment
  | .startTag tag => bodyStart tag
  | .endTag tag => bodyEnd tag
  | .finish => do if (← get).templateParts.isEmpty then return .done else finishTemplates
  | _ => return .done

end MediaQuery.Html.Build
