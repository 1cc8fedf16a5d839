import MediaQuery.Html.Builder.Table

/-!
# Rules of selections, templates and framesets

The remaining parts of a document: selections, in which hardly anything may stand; templates, which
are read by the rules of whatever their first tag belongs to; framesets; and what follows the body.
-/

namespace MediaQuery.Html.Build

/-- Closes the open selection. -/
def closeSelect : Build Unit := do
  popNamed "select"
  resetPart

/-- Closes the innermost element if it has a tag. -/
def popIf (tag : String) : Build Unit := do
  if (← get).currentIsIn (.named tag) then pop

/-- Rules for start tags in a selection. -/
def selectStart (tag : Tag) : Build Outcome := do
  let name := tag.name
  if name == "html" then completing (mergeRoot tag)
  else if name == "option" then
    popIf "option"
    completing (opening tag)
  else if name == "optgroup" then
    popIf "option"
    popIf "optgroup"
    completing (opening tag)
  else if name == "hr" then
    popIf "option"
    popIf "optgroup"
    completing (discard (insertEmpty tag))
  else if name == "select" then
    if (← get).inScope .selectScope "select" then closeSelect
    return .done
  else if ["input", "keygen", "textarea"].contains name then
    if (← get).inScope .selectScope "select" then
      closeSelect
      return .again
    else return .done
  else if name == "script" || name == "template" then headTag tag
  else return .done

/-- Rules for end tags in a selection. -/
def selectEnd (tag : Tag) : Build Outcome := do
  let b ← get
  if tag.name == "optgroup" then
    let groupBelow := (b.stack[1]?).any (b.isIn (.named "optgroup"))
    if b.currentIsIn (.named "option") && groupBelow then pop
    completing (popIf "optgroup")
  else if tag.name == "option" then completing (popIf "option")
  else if tag.name == "select" then
    if b.inScope .selectScope "select" then closeSelect
    return .done
  else if tag.name == "template" then closeTemplate
  else return .done

/-- Rules in a selection. -/
def inSelect : Token → Build Outcome
  | .char c => if c == '\x00' then return .done else completing (insertChar c)
  | .comment => completing insertComment
  | .startTag tag => selectStart tag
  | .endTag tag => selectEnd tag
  | .finish => inBody .finish
  | _ => return .done

/-- Tags of a table that close a selection in it. -/
def selectBreakTags : List String :=
  ["caption", "table", "tbody", "tfoot", "thead", "tr", "td", "th"]

/-- Rules in a selection that stands in a table. -/
def inSelectInTable (token : Token) : Build Outcome := do
  match token with
  | .startTag tag =>
    if selectBreakTags.contains tag.name then
      closeSelect
      return .again
    else inSelect token
  | .endTag tag =>
    if selectBreakTags.contains tag.name then
      if (← get).inScope .tableScope tag.name then
        closeSelect
        return .again
      else return .done
    else inSelect token
  | _ => inSelect token

/-- Rules in a template. -/
def inTemplate : Token → Build Outcome
  | .char c => if c == '\x00' then return .done else inBody (.char c)
  | .comment => inBody .comment
  | .startTag tag =>
    if headTags.contains tag.name then headTag tag
    else if ["caption", "colgroup", "tbody", "tfoot", "thead"].contains tag.name then
      setTemplatePart .inTable
    else if tag.name == "col" then setTemplatePart .inColumnGroup
    else if tag.name == "tr" then setTemplatePart .inTableBody
    else if tag.name == "td" || tag.name == "th" then setTemplatePart .inRow
    else setTemplatePart .inBody
  | .endTag tag => if tag.name == "template" then closeTemplate else return .done
  | .finish => finishTemplates
  | _ => return .done

/-- Rules behind the body, or behind the document element if `outside`. -/
def afterBody (outside : Bool) (token : Token) : Build Outcome := do
  match token with
  | .char c => if Ascii.isSpace c then inBody token else enterAgain .inBody
  | .comment =>
    completing do
      if outside then commentAt Dom.Construction.root
      else commentAt ((← get).root?.getD Dom.Construction.root)
  | .startTag tag => if tag.name == "html" then completing (mergeRoot tag) else enterAgain .inBody
  | .endTag tag =>
    if tag.name == "html" && !outside then completing (enter .afterAfterBody)
    else enterAgain .inBody
  | _ => return .done

/-- Rules in a frameset. -/
def inFrameset : Token → Build Outcome
  | .char c => if Ascii.isSpace c then completing (insertChar c) else return .done
  | .comment => completing insertComment
  | .startTag tag =>
    if tag.name == "html" then completing (mergeRoot tag)
    else if tag.name == "frameset" then completing (opening tag)
    else if tag.name == "frame" then completing (discard (insertEmpty tag))
    else if tag.name == "noframes" then headTag tag
    else return .done
  | .endTag tag =>
    completing do
      if tag.name == "frameset" && (← get).stack.length != 1 then
        pop
        if !(← get).currentIsIn (.named "frameset") then enter .afterFrameset
  | _ => return .done

/-- Rules behind a frameset, or behind the document element if `outside`. -/
def afterFrameset (outside : Bool) : Token → Build Outcome
  | .char c =>
    if !Ascii.isSpace c then return .done
    else if outside then inBody (.char c)
    else completing (insertChar c)
  | .comment =>
    completing (if outside then commentAt Dom.Construction.root else insertComment)
  | .startTag tag =>
    if tag.name == "html" then completing (mergeRoot tag)
    else if tag.name == "noframes" then headTag tag
    else return .done
  | .endTag tag =>
    completing do
      if tag.name == "html" && !outside then enter .afterAfterFrameset
  | _ => return .done

/-- Rules in the text of an element. -/
def inText : Token → Build Outcome
  | .char c => completing (insertChar c)
  | .finish => do
    pop
    leaveText
    return .again
  | .endTag _ =>
    completing do
      pop
      leaveText
  | _ => return .done

/-- The rules of the part of the document that a builder is in. -/
def byPart (token : Token) : Build Outcome := do
  match (← get).part with
  | .initial => initial token
  | .beforeHtml => beforeHtml token
  | .beforeHead => beforeHead token
  | .inHead => inHead token
  | .afterHead => afterHead token
  | .inBody => inBody token
  | .text => inText token
  | .inTable => inTable token
  | .inTableText => inTableText token
  | .inCaption => inCaption token
  | .inColumnGroup => inColumnGroup token
  | .inTableBody => inTableBody token
  | .inRow => inRow token
  | .inCell => inCell token
  | .inSelect => inSelect token
  | .inSelectInTable => inSelectInTable token
  | .inTemplate => inTemplate token
  | .afterBody => afterBody false token
  | .inFrameset => inFrameset token
  | .afterFrameset => afterFrameset false token
  | .afterAfterBody => afterBody true token
  | .afterAfterFrameset => afterFrameset true token

end MediaQuery.Html.Build
