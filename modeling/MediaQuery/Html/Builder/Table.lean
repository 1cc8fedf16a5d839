import MediaQuery.Html.Builder.Body

/-!
# Rules of tables

The parts of a table each have rules of their own. Content that may not stand between them is put
before the table, by the rules of the body.
-/

namespace MediaQuery.Html.Build

/-- Applies the rules of the body, with content put before the table. -/
def fosterInBody (token : Token) : Build Outcome := do
  modify fun b => { b with fostering := true }
  let outcome ← inBody token
  modify fun b => { b with fostering := false }
  return outcome

/-- Rules for a character in a table: it is kept back where only parts of the table may stand. -/
def tableChar (c : Char) : Build Outcome := do
  let b ← get
  if b.currentIsIn .fosterTarget then
    modify fun b => { b with returnPart := b.part, part := .inTableText }
    return .again
  else fosterInBody (.char c)

/-- Rules for start tags in a table. -/
def tableStart (tag : Tag) : Build Outcome := do
  let name := tag.name
  let clear := popTo .tableScope
  if name == "caption" then
    clear
    pushMarker
    opening tag
    enter .inCaption
    return .done
  else if name == "colgroup" then
    clear
    opening tag
    enter .inColumnGroup
    return .done
  else if name == "col" then
    clear
    discard (insertImplied "colgroup")
    enterAgain .inColumnGroup
  else if ["tbody", "tfoot", "thead"].contains name then
    clear
    opening tag
    enter .inTableBody
    return .done
  else if ["td", "th", "tr"].contains name then
    clear
    discard (insertImplied "tbody")
    enterAgain .inTableBody
  else if name == "table" then
    if (← get).inScope .tableScope "table" then
      popNamed "table"
      resetPart
      return .again
    else return .done
  else if ["style", "script", "template"].contains name then headTag tag
  else if name == "input" && tag.isHidden then
    discard (insertEmpty tag)
    return .done
  else if name == "form" then
    let b ← get
    if !b.hasOpen "template" && b.form.isNone then
      let n ← insertEmpty tag
      modify fun b => { b with form := some n }
    return .done
  else fosterInBody (.startTag tag)

/-- End tags of what a table stands in, and of its parts. -/
def strayTableEnds : List String := "body" :: "html" :: tableTags

/-- Rules in a table. -/
def inTable : Token → Build Outcome
  | .char c => tableChar c
  | .comment => completing insertComment
  | .startTag tag => tableStart tag
  | .endTag tag => do
    if tag.name == "table" then
      if (← get).inScope .tableScope "table" then
        popNamed "table"
        resetPart
      return .done
    else if tag.name == "template" then closeTemplate
    else if strayTableEnds.contains tag.name then return .done
    else fosterInBody (.endTag tag)
  | .finish => inBody .finish
  | _ => return .done

/-- Puts the characters kept back where they belong: before the table if any of them is more than
space. -/
def flushTableText : Build Unit := do
  let cs := (← get).tableText.reverse
  modify fun b => { b with tableText := [] }
  if cs.all Ascii.isSpace then cs.forM insertChar
  else cs.forM fun c => discard (fosterInBody (.char c))

/-- Rules for the characters of a table. -/
def inTableText : Token → Build Outcome
  | .char c => do
    if c != '\x00' then modify fun b => { b with tableText := c :: b.tableText }
    return .done
  | _ => do
    flushTableText
    leaveText
    return .again

/-- Rules in the caption of a table. -/
def inCaption (token : Token) : Build Outcome := do
  let close : Build Bool := do
    if (← get).inScope .tableScope "caption" then
      closeImplied
      popNamed "caption"
      clearFormatting
      enter .inTable
      return true
    else return false
  match token with
  | .startTag tag =>
    if tableTags.contains tag.name then
      if ← close then return .again else return .done
    else inBody token
  | .endTag tag =>
    if tag.name == "caption" then
      discard close
      return .done
    else if tag.name == "table" then
      if ← close then return .again else return .done
    else if strayTableEnds.contains tag.name then return .done
    else inBody token
  | _ => inBody token

/-- Rules in a group of columns. -/
def inColumnGroup (token : Token) : Build Outcome := do
  let leave : Build Outcome := do
    if (← get).currentIsIn (.named "colgroup") then
      pop
      enterAgain .inTable
    else return .done
  match token with
  | .char c =>
    if Ascii.isSpace c then
      insertChar c
      return .done
    else leave
  | .comment => completing insertComment
  | .startTag tag =>
    if tag.name == "html" then completing (mergeRoot tag)
    else if tag.name == "col" then completing (discard (insertEmpty tag))
    else if tag.name == "template" then headTag tag
    else leave
  | .endTag tag =>
    if tag.name == "colgroup" then
      if (← get).currentIsIn (.named "colgroup") then
        pop
        enter .inTable
      return .done
    else if tag.name == "col" then return .done
    else if tag.name == "template" then closeTemplate
    else leave
  | .finish => inBody .finish
  | _ => leave

/-- Rules in a group of rows. -/
def inTableBody (token : Token) : Build Outcome := do
  let leave : Build Unit := do
    popTo .bodyContext
    pop
    enter .inTable
  let leaveAgain : Build Outcome := do
    let b ← get
    if b.inScopeThat .tableScope (b.isIn (.oneOf ["table", "tbody", "tfoot"])) then
      leave
      return .again
    else return .done
  match token with
  | .startTag tag =>
    if tag.name == "tr" then
      popTo .bodyContext
      opening tag
      enter .inRow
      return .done
    else if tag.name == "th" || tag.name == "td" then
      popTo .bodyContext
      discard (insertImplied "tr")
      enterAgain .inRow
    else if tablePartTags.contains tag.name then leaveAgain
    else inTable token
  | .endTag tag =>
    if ["tbody", "tfoot", "thead"].contains tag.name then
      if (← get).inScope .tableScope tag.name then leave
      return .done
    else if tag.name == "table" then leaveAgain
    else if strayTableEnds.contains tag.name then return .done
    else inTable token
  | _ => inTable token

/-- Rules in a row. -/
def inRow (token : Token) : Build Outcome := do
  let leave : Build Bool := do
    if (← get).inScope .tableScope "tr" then
      popTo .rowContext
      pop
      enter .inTableBody
      return true
    else return false
  let leaveAgain : Build Outcome := do
    if ← leave then return .again else return .done
  match token with
  | .startTag tag =>
    if tag.name == "th" || tag.name == "td" then
      popTo .rowContext
      opening tag
      enter .inCell
      pushMarker
      return .done
    else if tag.name == "tr" || tablePartTags.contains tag.name then leaveAgain
    else inTable token
  | .endTag tag =>
    if tag.name == "tr" then
      discard leave
      return .done
    else if tag.name == "table" then leaveAgain
    else if ["tbody", "tfoot", "thead"].contains tag.name then
      if (← get).inScope .tableScope tag.name then leaveAgain else return .done
    else if strayTableEnds.contains tag.name then return .done
    else inTable token
  | _ => inTable token

/-- Closes the open cell. -/
def closeCell : Build Unit := do
  closeImplied
  popThrough .cell
  clearFormatting

/-- Rules in a cell. -/
def inCell (token : Token) : Build Outcome := do
  let leaveAgain : Build Outcome := do
    closeCell
    enterAgain .inRow
  match token with
  | .startTag tag =>
    if tableTags.contains tag.name then
      let b ← get
      if b.inScopeThat .tableScope (b.isIn .cell) then leaveAgain else return .done
    else inBody token
  | .endTag tag =>
    if tag.name == "td" || tag.name == "th" then
      if (← get).inScope .tableScope tag.name then
        closeImplied
        popNamed tag.name
        clearFormatting
        enter .inRow
      return .done
    else if ["body", "caption", "col", "colgroup", "html"].contains tag.name then return .done
    else if ["table", "tbody", "tfoot", "thead", "tr"].contains tag.name then
      if (← get).inScope .tableScope tag.name then leaveAgain else return .done
    else inBody token
  | _ => inBody token

end MediaQuery.Html.Build
