/-!
# Comments and strings

A comment or a string shields what it holds: a brace, a semicolon or an at-sign inside one means
nothing to the block structure of a stylesheet. `Shield` is the state of a reader that tells
shielded characters from bare ones in one pass.

A comment runs from `/*` to the next `*/`, and the star that opens it does not also close it. A
string runs from a quote to the next quote of the same kind, and a backslash takes the character
after it out of account. What is left open at the end of the text stays shielded to the end.
-/

namespace MediaQuery.Css

/-- Where a reader of a stylesheet stands with regard to comments and strings. -/
inductive Shield where
  /-- Outside comments and strings. -/
  | plain
  /-- Outside, just behind a slash: a star now would open a comment. -/
  | slash
  /-- In a comment. -/
  | comment
  /-- In a comment, just behind a star: a slash now closes it. -/
  | star
  /-- In a string that `quote` closes. -/
  | quoted (quote : Char)
  /-- In a string, just behind a backslash. -/
  | escaped (quote : Char)
deriving DecidableEq, Repr

namespace Shield

/-- Whether a character read in this state stands outside comments and strings. -/
def isBare : Shield → Bool
  | plain | slash => true
  | comment | star | quoted _ | escaped _ => false

/-- Whether the character opens and closes strings. -/
def isQuote (c : Char) : Bool := c == '"' || c == '\''

/-- The state after a character that no open comment or string holds. -/
def enter (c : Char) : Shield :=
  if c == '/' then slash else if isQuote c then quoted c else plain

/-- The state after one more character. -/
def step : Shield → Char → Shield
  | plain, c => enter c
  | slash, c => if c == '*' then comment else enter c
  | comment, c => if c == '*' then star else comment
  | star, c => if c == '/' then plain else if c == '*' then star else comment
  | quoted q, c => if c == '\\' then escaped q else if c == q then plain else quoted q
  | escaped q, _ => quoted q

/-- The state after a text. -/
def run (s : Shield) (cs : List Char) : Shield := cs.foldl step s

@[simp] theorem run_nil (s : Shield) : s.run [] = s := rfl

@[simp] theorem run_cons (s : Shield) (c : Char) (cs : List Char) :
    s.run (c :: cs) = (s.step c).run cs := rfl

@[simp] theorem run_append (s : Shield) (a b : List Char) : s.run (a ++ b) = (s.run a).run b :=
  List.foldl_append

/-- A bare character that is no slash, star or quote leaves the reader outside. -/
theorem step_of_isBare {s : Shield} {c : Char} (hs : s.isBare = true) (hslash : c ≠ '/')
    (hstar : c ≠ '*') (hquote : isQuote c = false) : s.step c = plain := by
  cases s <;> simp_all [isBare, step, enter]

end Shield

/-- Whether every comment and string of a text is closed within it. -/
def Closed (cs : List Char) : Prop := (Shield.run .plain cs).isBare = true

instance (cs : List Char) : Decidable (Closed cs) := inferInstanceAs (Decidable (_ = true))

end MediaQuery.Css
