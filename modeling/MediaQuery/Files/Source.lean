import MediaQuery.Failure
import MediaQuery.Url.Origin

/-!
# Sources of stylesheets

Where the text of a linked stylesheet comes from. A source may answer with a text, with nothing if
it does not know the reference, or with a failure; what it answers may depend on what it was asked
before.
-/

namespace MediaQuery

/-- A source of stylesheets. -/
structure Source where
  /-- Answers to a reference; `asked` are those that it was asked before, the first one first. -/
  fetch : (asked : List String) → (href : String) → Except Failure (Option String)

namespace Source

/-- A source that answers to each reference by itself. -/
def ofFunction (answer : String → Except Failure (Option String)) : Source := ⟨fun _ => answer⟩

/-- The path of a file from a directory. -/
def joinPath (root path : List Char) : List Char :=
  if root.isEmpty || root.getLast? == some '/' then root ++ path else root ++ '/' :: path

/-- The path that a reference stands for: its text before a query or a fragment, without slashes in
front. -/
def referencePath (href : List Char) : List Char :=
  (href.takeWhile fun c => c != '?' && c != '#').dropWhile (· == '/')

/-- A query or a fragment leads to no other file. -/
theorem referencePath_append {href : List Char} (h : ∀ c ∈ href, (c != '?' && c != '#') = true)
    {more : List Char} (hm : more.head?.all (fun c => !(c != '?' && c != '#')) = true) :
    referencePath (href ++ more) = referencePath href := by
  unfold referencePath
  rw [List.takeWhile_append_of_pos h]
  have hmore : more.takeWhile (fun c => c != '?' && c != '#') = [] := by
    cases more with
    | nil => rfl
    | cons c more =>
      rw [List.takeWhile_cons]
      split
      · next hc => simp_all
      · rfl
  have hself : href.takeWhile (fun c => c != '?' && c != '#') = href := by
    simpa using @List.takeWhile_append_of_pos _ _ href [] h
  rw [hmore, hself, List.append_nil]

/-- The path of the file that a reference stands for, in a directory. -/
def filePath (root href : String) : String :=
  String.ofList (joinPath root.toList (referencePath href.toList))

/-- What a directory of files has for a reference. One that names a host is not known. -/
def fetchFile (read : String → Except ReadError String) (root href : String) :
    Except Failure (Option String) :=
  if Url.namesHost href.toList then .ok none
  else
    match read (filePath root href) with
    | .ok text => .ok (some text)
    | .error cause => .error (.sheet href cause)

/-- The source that serves a directory of files. -/
def ofDirectory (read : String → Except ReadError String) (root : String) : Source :=
  .ofFunction (fetchFile read root)

end Source

end MediaQuery
