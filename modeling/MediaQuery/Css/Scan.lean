import MediaQuery.Css.Shield
import MediaQuery.Text.Ascii

/-!
# Finding `@media` blocks

One pass over a stylesheet yields its top-level `@media` rules: the text between the keyword and the
opening brace, and the text between that brace and the one that matches it. A rule that a semicolon
ends has no block and is passed over; a rule inside another block is not looked for; a closing
brace that matches nothing is ignored. A rule that the text leaves unfinished is reported and is the
last thing that the pass looks at.

The pass is structural recursion on the text. Its state is a `Phase`, which says what is being read,
beside a `Shield`, which says whether the character at hand counts.
-/

namespace MediaQuery.Css

/-- A top-level `@media` rule: what stands before its block, and what its block holds. -/
structure RawBlock where
  prelude : List Char
  body : List Char
deriving DecidableEq, Repr

/-- An unfinished `@media` rule, with the byte at which its keyword starts. -/
inductive Fault where
  /-- The text ends before the block opens. -/
  | noBlock (start : Nat)
  /-- The text ends before the block closes. -/
  | unterminated (start : Nat)
deriving DecidableEq, Repr

/-- The keyword of a media rule. -/
def keyword : List Char := "@media".toList

/-- Whether the text begins with `@media` in any letter case, followed by ASCII white space or an
opening parenthesis. -/
def startsRule (cs : List Char) : Bool :=
  match Ascii.dropWord? keyword cs with
  | some (c :: _) => Ascii.isSpace c || c == '('
  | _ => false

/-- What the pass is reading. Texts that are being collected are held in reverse. -/
inductive Phase where
  /-- Text outside media rules, inside `depth` braces. -/
  | outside (depth : Nat)
  /-- The keyword that starts at byte `start`; `left` of its letters are still to come. -/
  | keyword (start left : Nat)
  /-- What stands between a keyword and its block. -/
  | prelude (start : Nat) (read : List Char)
  /-- A block, inside `depth` braces of its own. -/
  | body (start : Nat) (prelude : List Char) (depth : Nat) (read : List Char)
deriving DecidableEq, Repr

namespace Phase

/-- The phase after a character that means nothing here. -/
def keep : Phase → Char → Phase
  | outside depth, _ => outside depth
  | keyword start 0, c => prelude start [c]
  | keyword start 1, _ => prelude start []
  | keyword start (left + 2), _ => keyword start (left + 1)
  | prelude start read, c => prelude start (c :: read)
  | body start p depth read, c => body start p depth (c :: read)

/-- The phase after a bare character, and the block that the character completes. `ahead` is the
text from the character on, and `position` the byte at which it stands. -/
def step (phase : Phase) (position : Nat) (c : Char) (ahead : List Char) :
    Phase × Option RawBlock :=
  match phase with
  | outside depth =>
    if c == '{' then (outside (depth + 1), none)
    else if c == '}' then (outside (depth - 1), none)
    else if c == '@' && depth == 0 && startsRule ahead then (keyword position 5, none)
    else (outside depth, none)
  | keyword .. => (phase.keep c, none)
  | prelude start read =>
    if c == '{' then (body start read.reverse 0 [], none)
    else if c == ';' then (outside 0, none)
    else (phase.keep c, none)
  | body start p depth read =>
    if c == '{' then (body start p (depth + 1) (c :: read), none)
    else if c == '}' then
      match depth with
      | 0 => (outside 0, some ⟨p, read.reverse⟩)
      | depth + 1 => (body start p depth (c :: read), none)
    else (phase.keep c, none)

/-- What is wrong if the text ends in this phase. -/
def fault : Phase → Option Fault
  | outside _ => none
  | keyword start _ | prelude start _ => some (.noBlock start)
  | body start .. => some (.unterminated start)

end Phase

/-- The blocks that a text completes, read from a phase and a state on, and what is wrong at its
end. -/
def scanFrom (position : Nat) (phase : Phase) (shield : Shield) :
    List Char → List RawBlock × Option Fault
  | [] => ([], phase.fault)
  | c :: cs =>
    let next := if shield.isBare then phase.step position c (c :: cs) else (phase.keep c, none)
    match next with
    | (phase', none) => scanFrom (position + c.utf8Size) phase' (shield.step c) cs
    | (phase', some block) =>
      let rest := scanFrom (position + c.utf8Size) phase' (shield.step c) cs
      (block :: rest.1, rest.2)

/-- The top-level `@media` blocks of a stylesheet, and the unfinished rule that ended the search. -/
def scan (text : List Char) : List RawBlock × Option Fault := scanFrom 0 (.outside 0) .plain text

/-- The top-level `@media` blocks of a stylesheet, in order. -/
def mediaBlocks (text : List Char) : List RawBlock := (scan text).1

end MediaQuery.Css
