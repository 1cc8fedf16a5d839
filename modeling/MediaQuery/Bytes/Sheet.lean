import MediaQuery.Bytes.Basic
import MediaQuery.Css.Scan

/-!
# Finding `@media` blocks by byte

The search for the top-level `@media` rules of a stylesheet as a walk over its bytes. Comments and
strings are jumped over, and what stands before a block and in it is cut out of the text between the
indices at which the walk has stopped. A backslash in a string takes two bytes, even where the
second one is the first of several that make up a character, or is not there.

Every jump has to lead ahead; one that did not would be a slip.
-/

namespace MediaQuery.Bytes

open Css (RawBlock Fault Shield)

/-- The number of bytes in front of the first `*/`. -/
def commentEnd? : List UInt8 → Option Nat
  | a :: b :: rest =>
    if asChar a == '*' && asChar b == '/' then some 0
    else (commentEnd? (b :: rest)).map (· + 1)
  | _ => none

/-- The index behind a string, from an index in it on; the end if it is left open. -/
def skipString (quote : Char) (bytes : List UInt8) (i : Nat) : Nat :=
  if h : i < bytes.length then
    if asChar bytes[i] == '\\' then skipString quote bytes (i + 2)
    else if asChar bytes[i] == quote then i + 1
    else skipString quote bytes (i + 1)
  else bytes.length
termination_by bytes.length - i

/-- The index behind the comment or the string that begins at an index, if one begins there. -/
def skipOpaque (bytes : List UInt8) (i : Nat) : Checked (Option Nat) := do
  let c := asChar (← byteAt bytes i)
  if c == '/' && (bytes[i + 1]?.map asChar == some '*') then
    let inner ← slice bytes (i + 2) bytes.length
    match commentEnd? inner with
    | some n => return some (i + 2 + n + 2)
    | none => return some bytes.length
  else if Shield.isQuote c then return some (skipString c bytes (i + 1))
  else return none

/-- Whether the keyword of a media rule stands at an index, with what may follow it. -/
def isMediaKeyword (bytes : List UInt8) (i : Nat) : Bool :=
  spells bytes i Css.keyword &&
    match bytes[i + Css.keyword.length]? with
    | some b => Ascii.isSpace (asChar b) || asChar b == '('
    | none => false

/-- The index of the brace that opens a block, or of the semicolon that stands for it. -/
def findBlockOpen (bytes : List UInt8) (i : Nat) : Checked (Option Nat) :=
  if h : i < bytes.length then do
    match ← skipOpaque bytes i with
    | some next => if i < next then findBlockOpen bytes next else .error .stuck
    | none =>
      if asChar bytes[i] == '{' || asChar bytes[i] == ';' then return some i
      else findBlockOpen bytes (i + 1)
  else return none
termination_by bytes.length - i

/-- The index of the brace that closes a block, inside `depth` braces. -/
def findBlockClose (bytes : List UInt8) (i depth : Nat) : Checked (Option Nat) :=
  if h : i < bytes.length then do
    match ← skipOpaque bytes i with
    | some next => if i < next then findBlockClose bytes next depth else .error .stuck
    | none =>
      if asChar bytes[i] == '{' then findBlockClose bytes (i + 1) (depth + 1)
      else if asChar bytes[i] == '}' then
        let outer ← decrement depth
        if outer = 0 then return some i else findBlockClose bytes (i + 1) outer
      else findBlockClose bytes (i + 1) depth
  else return none
termination_by bytes.length - i

/-- What a walk comes upon where a media rule begins. -/
inductive Rule where
  /-- The rule is not finished within the text. -/
  | unfinished (fault : Fault)
  /-- The rule has no block; the index is the one behind it. -/
  | blockless (next : Nat)
  /-- The rule has a block; the index is the one behind it. -/
  | block (block : RawBlock) (next : Nat)

/-- The media rule whose keyword stands at index `i` and whose block opens at another one. -/
def blockAt (text : List Char) (bytes : List UInt8) (i opening : Nat) : Checked Rule := do
  match ← findBlockClose bytes (opening + 1) 1 with
  | none => return .unfinished (.unterminated i)
  | some closing =>
    let prelude ← cut text (i + Css.keyword.length) opening
    let body ← cut text (opening + 1) closing
    return .block ⟨prelude, body⟩ (closing + 1)

/-- The media rule whose keyword stands at an index. -/
def ruleAt (text : List Char) (bytes : List UInt8) (i : Nat) : Checked Rule := do
  match ← findBlockOpen bytes (i + Css.keyword.length) with
  | none => return .unfinished (.noBlock i)
  | some opening =>
    if asChar (← byteAt bytes opening) == ';' then return .blockless (opening + 1)
    else blockAt text bytes i opening

/-- The top-level `@media` blocks of a text from a byte on, inside `depth` braces, and the
unfinished rule that ends the search. -/
def scanFrom (text : List Char) (bytes : List UInt8) (i depth : Nat) :
    Checked (List RawBlock × Option Fault) :=
  if h : i < bytes.length then do
    match ← skipOpaque bytes i with
    | some next => if i < next then scanFrom text bytes next depth else .error .stuck
    | none =>
      if asChar bytes[i] == '{' then scanFrom text bytes (i + 1) (depth + 1)
      else if asChar bytes[i] == '}' then scanFrom text bytes (i + 1) (depth - 1)
      else if asChar bytes[i] == '@' && depth == 0 && isMediaKeyword bytes i then
        match ← ruleAt text bytes i with
        | .unfinished fault => return ([], some fault)
        | .blockless next => if i < next then scanFrom text bytes next depth else .error .stuck
        | .block block next =>
          if i < next then
            let rest ← scanFrom text bytes next depth
            return (block :: rest.1, rest.2)
          else .error .stuck
      else scanFrom text bytes (i + 1) depth
  else return ([], none)
termination_by bytes.length - i

/-- The top-level `@media` blocks of a stylesheet, and the unfinished rule that ended the search. -/
def scan (text : List Char) : Checked (List RawBlock × Option Fault) :=
  scanFrom text (utf8 text) 0 0

end MediaQuery.Bytes
