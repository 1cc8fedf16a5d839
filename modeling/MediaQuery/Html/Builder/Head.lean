import MediaQuery.Html.Builder.Formatting

/-!
# Rules before the body

What stands before the body of a document, down to the rules of the head, which also hold for
stylesheets, scripts, templates and the like wherever they stand.
-/

namespace MediaQuery.Html.Build

/-- Whether an end tag counts where the elements around it are still implied. -/
def endsEarly (tag : Tag) : Bool := ["body", "html", "br"].contains tag.name

/-- Rules before anything but comments has been seen. -/
def initial : Token → Build Outcome
  | .char c => if Ascii.isSpace c then return .done else start
  | .comment => do
    commentAt Dom.Construction.root
    return .done
  | _ => start
where
  /-- Goes on without a document type. -/
  start : Build Outcome := do
    onTree fun tree => { tree with mode := .quirks }
    enterAgain .beforeHtml

/-- Rules before the document element. -/
def beforeHtml (token : Token) : Build Outcome := do
  let implied : Build Outcome := do
    createRoot ⟨"html", [], false⟩
    enterAgain .beforeHead
  match token with
  | .char c => if Ascii.isSpace c then return .done else implied
  | .comment =>
    commentAt Dom.Construction.root
    return .done
  | .startTag tag =>
    if tag.name == "html" then
      createRoot tag
      enter .beforeHead
      return .done
    else implied
  | .endTag tag => if tag.name == "head" || endsEarly tag then implied else return .done
  | _ => implied

/-- Notes an element as the head. -/
def setHead (n : Dom.NodeId) : Build Unit := modify fun b => { b with head := some n }

/-- Rules before the head. -/
def beforeHead (token : Token) : Build Outcome := do
  let implied : Build Outcome := do
    setHead (← insertImplied "head")
    enterAgain .inHead
  match token with
  | .char c => if Ascii.isSpace c then return .done else implied
  | .comment =>
    insertComment
    return .done
  | .startTag tag =>
    if tag.name == "html" then
      mergeRoot tag
      return .done
    else if tag.name == "head" then
      setHead (← insert tag)
      enter .inHead
      return .done
    else implied
  | .endTag tag => if tag.name == "head" || endsEarly tag then implied else return .done
  | _ => implied

/-- Opens a template. -/
def openTemplate (tag : Tag) : Build Outcome := do
  pushMarker
  notFrameset
  modify fun b => { b with part := .inTemplate, templateParts := .inTemplate :: b.templateParts }
  let _ ← insert tag
  return .done

/-- Closes the innermost template, if one is open. -/
def closeTemplate : Build Outcome := do
  if (← get).hasOpen "template" then
    popWhile .thoroughImpliedEnd
    popNamed "template"
    clearFormatting
    modify fun b => { b with templateParts := b.templateParts.tail }
    resetPart
  return .done

/-- Rules for start tags that belong into the head; nothing for any other tag. -/
def headTag? (tag : Tag) : Option (Build Outcome) :=
  if ["base", "basefont", "bgsound", "link", "meta"].contains tag.name then
    some do
      let _ ← insertEmpty tag
      return .done
  else if tag.name == "title" then some (insertTextElement tag .escapable)
  else if ["noframes", "style", "noscript"].contains tag.name then
    some (insertTextElement tag .raw)
  else if tag.name == "script" then some (insertTextElement tag .script)
  else if tag.name == "template" then some (openTemplate tag)
  else none

/-- Rules for start tags that belong into the head, applied to one of them. -/
def headTag (tag : Tag) : Build Outcome := (headTag? tag).getD (return .done)

/-- Rules in the head. -/
def inHead (token : Token) : Build Outcome := do
  let leave : Build Outcome := do
    pop
    enterAgain .afterHead
  match token with
  | .char c =>
    if Ascii.isSpace c then
      insertChar c
      return .done
    else leave
  | .comment =>
    insertComment
    return .done
  | .startTag tag =>
    if tag.name == "html" then
      mergeRoot tag
      return .done
    else if tag.name == "head" then return .done
    else (headTag? tag).getD leave
  | .endTag tag =>
    if tag.name == "head" then
      pop
      enter .afterHead
      return .done
    else if tag.name == "template" then closeTemplate
    else if endsEarly tag then leave
    else return .done
  | _ => leave

/-- Rules between head and body. -/
def afterHead (token : Token) : Build Outcome := do
  let implied : Build Outcome := do
    let _ ← insertImplied "body"
    enterAgain .inBody
  match token with
  | .char c =>
    if Ascii.isSpace c then
      insertChar c
      return .done
    else implied
  | .comment =>
    insertComment
    return .done
  | .startTag tag =>
    if tag.name == "html" then
      mergeRoot tag
      return .done
    else if tag.name == "body" then
      let _ ← insert tag
      notFrameset
      enter .inBody
      return .done
    else if tag.name == "frameset" then
      let _ ← insert tag
      enter .inFrameset
      return .done
    else if headTags.contains tag.name then
      match (← get).head with
      | some head =>
        push head
        let outcome ← headTag tag
        removeOpen head
        return outcome
      | none => headTag tag
    else if tag.name == "head" then return .done
    else implied
  | .endTag tag =>
    if tag.name == "template" then closeTemplate
    else if endsEarly tag then implied
    else return .done
  | _ => implied

end MediaQuery.Html.Build
