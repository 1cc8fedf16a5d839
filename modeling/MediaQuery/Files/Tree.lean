import MediaQuery.Failure
import MediaQuery.Text.Size
import MediaQuery.Text.Split

/-!
# File trees

A directory with all that lies in it, and the reading of files by path. A path is walked name by
name. Two dots lead to the directory above, also out of the tree; what lies outside is not known, so
nothing but directories is found there.
-/

namespace MediaQuery

/-- A file, or a directory with its entries. -/
inductive FileTree where
  | file (content : ByteArray)
  | directory (entries : List (String × FileTree))

namespace FileTree

/-- A directory with nothing in it. -/
def empty : FileTree := directory []

/-- The entries of a directory; a file has none. -/
def entries : FileTree → List (String × FileTree)
  | file _ => []
  | directory entries => entries

/-- The entry of a name. -/
def lookup? (name : String) (entries : List (String × FileTree)) : Option FileTree :=
  (entries.find? (·.1 == name)).map Prod.snd

/-- The entries with another one under a name. -/
def put (name : String) (tree : FileTree) :
    List (String × FileTree) → List (String × FileTree)
  | [] => [(name, tree)]
  | (other, old) :: rest =>
    if other == name then (name, tree) :: rest else (other, old) :: put name tree rest

/-- Puts a file into a tree, under the names of the directories that lead to it. -/
def insert (content : ByteArray) : (names : List String) → FileTree → FileTree
  | [], _ => file content
  | name :: rest, tree =>
    directory (put name (insert content rest ((lookup? name tree.entries).getD empty)) tree.entries)

/-- Where a path has led to. -/
inductive Place where
  /-- A file or a directory of the tree, below others. -/
  | inside (above : List FileTree) (tree : FileTree)
  | outside

/-- The most bytes that a name can have. -/
def maxNameSize : Nat := 255

/-- The number of bytes from which on a path is too long. -/
def pathLimit : Nat := 4096

/-- Why a name that leads to nothing can not be followed. -/
def missing (name : List Char) : ReadError :=
  if maxNameSize < Size.utf8 name then .nameTooLong else .notFound

/-- Follows a name. An empty one leads nowhere else, as one dot does. -/
def Place.follow (place : Place) (name : List Char) : Except ReadError Place :=
  match place with
  | .outside =>
    if name == [] || name == ['.'] || name == ['.', '.'] then .ok .outside
    else .error (missing name)
  | .inside _ (file _) => .error .notDirectory
  | .inside above (directory entries) =>
    if name == [] || name == ['.'] then .ok place
    else if name == ['.', '.'] then
      match above with
      | [] => .ok .outside
      | parent :: rest => .ok (.inside rest parent)
    else
      match lookup? (String.ofList name) entries with
      | some tree => .ok (.inside (directory entries :: above) tree)
      | none => .error (missing name)

/-- Where a path leads to. -/
def find (tree : FileTree) (path : List Char) : Except ReadError Place :=
  let start := if path.head? == some '/' then Place.outside else .inside [] tree
  (Split.splitOn (· == '/') path).foldlM Place.follow start

/-- The text of the file that a path leads to. -/
def read (tree : FileTree) (path : String) : Except ReadError String :=
  let cs := path.toList
  if cs.contains '\x00' then .error .zeroInName
  else if cs.isEmpty then .error .notFound
  else if pathLimit ≤ Size.utf8 cs then .error .nameTooLong
  else do
    match ← tree.find cs with
    | .inside _ (file content) =>
      match String.fromUTF8? content with
      | some text => .ok text
      | none => .error .notUtf8
    | _ => .error .isDirectory

/-- A tree of some files, each given by its path. -/
def ofList (files : List (String × ByteArray)) : FileTree :=
  files.foldl (fun tree (path, content) =>
    let names := (Split.splitOn (· == '/') path.toList).filter fun n => !(n == [] || n == ['.'])
    tree.insert content (names.map String.ofList)) empty

end FileTree

end MediaQuery
