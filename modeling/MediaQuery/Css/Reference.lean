import MediaQuery.Text.Ascii
import MediaQuery.Text.Blank
import MediaQuery.Text.Size

/-!
# Relative references

A stylesheet names other files in `url(…)`, relative to its own place. Moved into a page, such a
reference has to carry the directory of the sheet with it. `relocate` puts it there and leaves every
other character of the sheet alone; a reference that is made to carry it loses its quotes.

A reference is relative when it starts with neither `/` nor `#` and reaches its closing parenthesis
without a colon.
-/

namespace MediaQuery.Css

/-- The part of a reference up to and including its last slash; nothing if it has none. -/
def directory (href : List Char) : List Char :=
  (href.reverse.dropWhile (· != '/')).reverse

/-- The text without the quote it may begin with. -/
def dropQuote : List Char → List Char
  | '"' :: cs | '\'' :: cs => cs
  | cs => cs

/-- Whether a path stops before this character. -/
def endsPath (c : Char) : Bool := c == ':' || c == ')' || c == '"' || c == '\''

/-- Whether a path may be put behind a directory: it has at least two bytes and starts with neither
a slash nor a number sign. -/
def isRelativePath (path : List Char) : Bool :=
  match path with
  | [] => false
  | c :: _ => c != '/' && c != '#' && 2 ≤ Size.utf8 path

/-- The relative path at the start of the argument of `url(`, with the text behind the closing
parenthesis. -/
def relative? (arg : List Char) : Option (List Char × List Char) :=
  let inner := dropQuote (Ascii.skipSpace arg)
  let path := Blank.trimRight (inner.takeWhile (fun c => !endsPath c))
  if isRelativePath path then
    match Ascii.skipSpace (dropQuote (inner.dropWhile (fun c => !endsPath c))) with
    | ')' :: rest => some (path, rest)
    | _ => none
  else none

theorem length_dropQuote_le (cs : List Char) : (dropQuote cs).length ≤ cs.length := by
  unfold dropQuote
  split <;> simp

theorem length_relative? {arg path rest : List Char} (h : relative? arg = some (path, rest)) :
    rest.length < arg.length := by
  unfold relative? at h
  dsimp only at h
  split at h
  · split at h
    · next heq =>
      simp only [Option.some.injEq, Prod.mk.injEq] at h
      obtain ⟨-, rfl⟩ := h
      have h₁ := Ascii.length_skipSpace_le
        (dropQuote ((dropQuote (Ascii.skipSpace arg)).dropWhile (fun c => !endsPath c)))
      have h₂ := length_dropQuote_le
        ((dropQuote (Ascii.skipSpace arg)).dropWhile (fun c => !endsPath c))
      have h₃ := (List.dropWhile_sublist (l := dropQuote (Ascii.skipSpace arg))
        (fun c => !endsPath c)).length_le
      have h₄ := length_dropQuote_le (Ascii.skipSpace arg)
      have h₅ := Ascii.length_skipSpace_le arg
      rw [heq] at h₁
      simp only [List.length_cons] at h₁
      omega
    · simp at h
  · simp at h

/-- A stylesheet with `dir` in front of its relative references. -/
def prepend (dir : List Char) : List Char → List Char
  | [] => []
  | 'u' :: 'r' :: 'l' :: '(' :: arg =>
    'u' :: 'r' :: 'l' :: '(' ::
      match h : relative? arg with
      | some (path, rest) =>
        have := length_relative? h
        dir ++ path ++ ')' :: prepend dir rest
      | none => prepend dir arg
  | c :: cs => c :: prepend dir cs
termination_by cs => cs.length
decreasing_by all_goals simp only [List.length_cons]; omega

/-- A stylesheet whose relative references are read from the directory `dir`; with no directory they
stay as they are. -/
def relocate (css dir : List Char) : List Char := if dir.isEmpty then css else prepend dir css

end MediaQuery.Css
