import MediaQuery.Html.Builder.Basic

/-!
# Formatting that is carried on

Formatting elements may be closed in another order than they were opened in, and a block that ends
does not end the formatting around it. `reopenFormatting` opens again what such a block has closed.
`adopt` ends one kind of formatting in the middle of others: the block furthest out within it takes
over its content, and what lies between is split.
-/

namespace MediaQuery.Html

open Dom (NodeId)

/-- Whether an entry of the list of formatting is about a node. -/
def Formatting.isOf (n : NodeId) : Formatting → Bool
  | .element m _ => m == n
  | .marker => false

/-- The entries since the last boundary, the latest first. -/
def Builder.recent (b : Builder) : List Formatting := b.formatting.takeWhile (· != .marker)

/-- The latest element since the last boundary that a tag of a name made. -/
def Builder.latest? (b : Builder) (name : String) : Option (NodeId × Tag) :=
  b.recent.findSome? fun
    | .element n tag => if tag.name == name then some (n, tag) else none
    | .marker => none

/-- Whether an entry is an element that is not open any more. -/
def Builder.isClosed (b : Builder) : Formatting → Bool
  | .element n _ => !b.stack.contains n
  | .marker => false

namespace Build

/-- Opens again the formatting that was closed since the last boundary or open element. -/
def reopenFormatting : Build Unit := do
  let b ← get
  let closed := b.formatting.takeWhile b.isClosed
  let reopened ← closed.reverse.mapM fun
    | .element _ tag => return Formatting.element (← insert tag) tag
    | .marker => return Formatting.marker
  modify fun b => { b with formatting := reopened.reverse ++ b.formatting.drop closed.length }

/-- Drops an element from the list of formatting. -/
def dropFormatting (n : NodeId) : Build Unit :=
  modify fun b => { b with formatting := b.formatting.filter fun f => !f.isOf n }

/-- Inserts an element whose formatting is to be carried on. Of more than three that are alike since
the last boundary, the first is forgotten. -/
def insertFormatting (tag : Tag) : Build Unit := do
  let b ← get
  let same := b.recent.filterMap fun
    | .element n other => if tag.alike other then some n else none
    | .marker => none
  if 3 ≤ same.length then
    match same.getLast? with
    | some n => dropFormatting n
    | none => pure ()
  let n ← insert tag
  modify fun b => { b with formatting := .element n tag :: b.formatting }

/-- Closes the nearest open element of a tag, unless a special element stands before it. -/
def closeNearest (name : String) : Build Unit := do
  let b ← get
  match b.stack.find? (b.isIn fun e => ElementClass.named name e || ElementClass.special e) with
  | some n =>
    if b.isIn (.named name) n then
      closeImpliedBut name
      modify fun b => { b with stack := (b.stack.dropWhile (· != n)).tail }
  | none => pure ()

/-- Where the new formatting element goes in the list of formatting. -/
inductive Bookmark where
  | replace
  | behind (n : NodeId)

/-- How far `adopt` has come on the way from the block outwards. -/
structure Climb where
  count : Nat
  last : NodeId
  bookmark : Bookmark

/-- Deals with an element between the block and the formatting element. One of the first three that
carries formatting is replaced by a copy, which takes in what was split off so far; any other is
closed. -/
def climb (block : NodeId) (state : Climb) (n : NodeId) : Build Climb := do
  let b ← get
  let count := state.count + 1
  let tag := b.formatting.findSome? fun
    | .element m tag => if m == n then some tag else none
    | .marker => none
  match tag with
  | some tag =>
    if 3 < count then
      dropFormatting n
      removeOpen n
      return { state with count }
    else
      let copy ← create .html tag
      modify fun b =>
        { b with
          stack := b.stack.map fun m => if m == n then copy else m
          formatting := b.formatting.map fun f => if f.isOf n then .element copy tag else f }
      onTree fun tree => (tree.detach state.last).append copy (.node state.last)
      let bookmark := if state.last == block then .behind copy else state.bookmark
      return ⟨count, copy, bookmark⟩
  | none =>
    removeOpen n
    return { state with count }

/-- Puts an entry into the list of formatting at a bookmark, and drops the one of `old`. -/
def placeFormatting (old : NodeId) (entry : Formatting) : Bookmark → List Formatting →
    List Formatting
  | .replace, entries => entries.map fun f => if f.isOf old then entry else f
  | .behind n, entries =>
    (entries.flatMap fun f => if f.isOf n then [entry, f] else [f]).filter fun f => !f.isOf old

/-- Ends one formatting element of a name. Says whether there may be another. -/
def adoptOnce (name : String) : Build Bool := do
  let b ← get
  match b.latest? name with
  | none =>
    closeNearest name
    return false
  | some (n, tag) =>
    if !b.stack.contains n then
      dropFormatting n
      return false
    else if !b.inScopeThat .scope (· == n) then return false
    else
      let inner := b.stack.takeWhile (· != n)
      let outer := (b.stack.dropWhile (· != n)).tail
      match inner.reverse.find? (b.isIn .special) with
      | none =>
        modify fun b => { b with stack := outer }
        dropFormatting n
        return false
      | some block =>
        let between := (inner.dropWhile (· != block)).tail
        let state ← between.foldlM (climb block) ⟨0, block, .replace⟩
        onTree (·.detach state.last)
        insertAt outer.head? (.node state.last)
        let fresh ← create .html tag
        onTree fun tree => (tree.reparent block fresh).append block (.node fresh)
        modify fun b =>
          { b with
            formatting := placeFormatting n (.element fresh tag) state.bookmark b.formatting
            stack := (b.stack.filter (· != n)).flatMap fun m =>
              if m == block then [fresh, m] else [m] }
        return true

/-- Ends formatting elements of a name, at most `count` of them. -/
def adoptUpTo (name : String) : (count : Nat) → Build Unit
  | 0 => pure ()
  | count + 1 => do if ← adoptOnce name then adoptUpTo name count

/-- Ends the formatting that elements of a name carry. -/
def adopt (name : String) : Build Unit := do
  let b ← get
  let closedAlready := fun n => !b.formatting.any (·.isOf n)
  match b.stack with
  | n :: _ => if b.isIn (.named name) n && closedAlready n then pop else adoptUpTo name 8
  | [] => pure ()

/-- Ends a link that is still open when another begins. -/
def endOpenLink : Build Unit := do
  match (← get).recent.findSome? (fun
      | .element n tag => if tag.name == "a" then some n else none
      | .marker => none) with
  | some n =>
    adopt "a"
    dropFormatting n
    removeOpen n
  | none => pure ()

end Build

end MediaQuery.Html
