import Mathlib.Data.List.Basic
import MediaQuery.Files.Source
import MediaQuery.Files.Tree

/-!
# Where the files lie that are served

A directory of files serves what it finds at the path of a reference, walking from the directory.
In a tree without links that is where the text of the path leads (`resolve?`), each name one step
down and two dots one step up. A path that never rises above its start stays in the directory, and
nothing keeps one that does rise above it from leading out.

* `served_file_lies_where_the_path_leads` — which file is served for a reference
* `file_beside_the_site_is_served` — and that it may lie outside
-/

namespace MediaQuery.FileTree

variable {tree below : FileTree} {above : List FileTree} {base names : List String}
  {place : Place} {path part : List Char} {parts : List (List Char)}

/-! ## Where the text of a path leads -/

/-- Where a part of a path leads from some names: nowhere if it rises above the first. -/
def followName (names : List String) (part : List Char) : Option (List String) :=
  if part == [] || part == ['.'] then some names
  else if part == ['.', '.'] then if names.isEmpty then none else some names.dropLast
  else some (names ++ [String.ofList part])

/-- Where the parts of a path lead from some names. -/
def followNames (names : List String) (parts : List (List Char)) : Option (List String) :=
  parts.foldlM followName names

/-- The names that a path leads to from others. -/
def resolve? (names : List String) (path : List Char) : Option (List String) :=
  followNames names (Split.splitOn (· == '/') path)

theorem followNames_cons : followNames names (part :: parts) =
    (followName names part).bind fun names => followNames names parts := List.foldlM_cons ..

theorem followNames_append (parts' : List (List Char)) : followNames names (parts ++ parts') =
    (followNames names parts).bind fun names => followNames names parts' := List.foldlM_append ..

theorem followName_append {names' : List String} (h : followName names part = some names') :
    followName (base ++ names) part = some (base ++ names') := by
  unfold followName at h ⊢
  split
  next hstay =>
    rw [if_pos hstay] at h
    rw [Option.some.inj h]
  next hstay =>
    rw [if_neg hstay] at h
    split
    next hup =>
      rw [if_pos hup] at h
      split at h
      next => exact absurd h (by simp)
      next hne =>
        have hne' : names ≠ [] := by simpa using hne
        rw [if_neg (by simp [hne']), List.dropLast_append_of_ne_nil hne', ← Option.some.inj h]
    next hup =>
      rw [if_neg hup] at h
      rw [List.append_assoc, Option.some.inj h]

theorem followNames_append_left {names' : List String}
    (h : followNames names parts = some names') :
    followNames (base ++ names) parts = some (base ++ names') := by
  induction parts generalizing names with
  | nil => exact congrArg _ (congrArg _ (Option.some.inj h))
  | cons part parts ih =>
    rw [followNames_cons] at h ⊢
    obtain ⟨next, hpart, hparts⟩ := Option.bind_eq_some_iff.mp h
    rw [followName_append hpart]
    exact ih hparts

/-- A path that does not rise above its start leads to names behind it. -/
theorem resolve?_of_resolve?_nil {names : List String} (h : resolve? [] path = some names)
    (base : List String) : resolve? base path = some (base ++ names) := by
  have happend : resolve? (base ++ []) path = some (base ++ names) := followNames_append_left h
  rwa [List.append_nil] at happend

/-- A path in a directory is walked from where the path of the directory leads. -/
theorem exists_splitOn_joinPath (root path : List Char) : ∃ front,
    Split.splitOn (· == '/') (Source.joinPath root path) =
      front ++ Split.splitOn (· == '/') path ∧
    ∀ names, followNames names front = resolve? names root := by
  unfold Source.joinPath
  split
  next hend =>
    rw [Bool.or_eq_true, List.isEmpty_iff, beq_iff_eq] at hend
    rcases hend with rfl | hend
    · exact ⟨[], rfl, fun names => rfl⟩
    · obtain ⟨front, rfl⟩ := List.getLast?_eq_some_iff.mp hend
      refine ⟨Split.splitOn (· == '/') front, ?_, fun names => ?_⟩
      · rw [List.append_assoc, List.singleton_append, Split.splitOn_append rfl]
      · -- the slash at the end leads nowhere else
        rw [resolve?, Split.splitOn_append rfl, followNames_append]
        cases followNames names (Split.splitOn (· == '/') front) <;> rfl
  next => exact ⟨_, Split.splitOn_append rfl root path, fun names => rfl⟩

/-! ## Where the walk leads -/

/-- What lies under some names, the outermost first. -/
def at? : List String → FileTree → Option FileTree
  | [], tree => some tree
  | name :: names, tree => (lookup? name tree.entries).bind (at? names)

/-- The place under some names, with the directories on the way to it. -/
inductive IsAt (tree : FileTree) : List String → Place → Prop where
  | top : IsAt tree [] (.inside [] tree)
  | entry {names : List String} {above : List FileTree} {entries : List (String × FileTree)}
      {name : String} {below : FileTree} (h : IsAt tree names (.inside above (directory entries)))
      (hname : lookup? name entries = some below) :
      IsAt tree (names ++ [name]) (.inside (directory entries :: above) below)

theorem at?_concat (names : List String) (name : String) (tree : FileTree) :
    at? (names ++ [name]) tree = (at? names tree).bind fun t => lookup? name t.entries := by
  induction names generalizing tree with
  | nil => simp [at?]
  | cons first names ih =>
    rw [List.cons_append, at?, at?, Option.bind_assoc]
    exact congrArg _ (funext fun t => ih t)

theorem IsAt.at?_eq (h : IsAt tree names (.inside above below)) : at? names tree = some below := by
  generalize hplace : Place.inside above below = place at h
  induction h generalizing above below with
  | top =>
    obtain ⟨-, rfl⟩ := Place.inside.inj hplace
    rfl
  | entry h hname ih =>
    obtain ⟨-, rfl⟩ := Place.inside.inj hplace
    rw [at?_concat, ih rfl]
    exact hname

/-- A step that stays in the tree is one that the names take. -/
theorem IsAt.follow (h : IsAt tree names place)
    (hfollow : place.follow part = .ok (.inside above below)) :
    ∃ names', followName names part = some names' ∧ IsAt tree names' (.inside above below) := by
  cases place with
  | outside => cases h
  | inside above' t =>
    cases t with
    | file content => exact absurd hfollow (by simp [Place.follow])
    | directory entries =>
      unfold Place.follow at hfollow
      dsimp only at hfollow
      split at hfollow
      next hstay =>
        rw [← Except.ok.inj hfollow]
        exact ⟨names, if_pos hstay, h⟩
      next hstay =>
        split at hfollow
        next hup =>
          cases h with
          | top => exact absurd hfollow (by simp)
          | @entry names _ _ name _ h hname =>
            rw [← Except.ok.inj hfollow]
            refine ⟨names, ?_, h⟩
            rw [followName, if_neg hstay, if_pos hup, if_neg (by simp), List.dropLast_concat]
        next hup =>
          split at hfollow
          next t hname =>
            rw [← Except.ok.inj hfollow]
            refine ⟨names ++ [String.ofList part], ?_, h.entry hname⟩
            rw [followName, if_neg hstay, if_neg hup]
          next => exact absurd hfollow (by simp)

/-- What comes after a step depends on where it leads. -/
theorem bind_eq_ok {α β : Type} {x : Except ReadError α} {f : α → Except ReadError β} {b : β} :
    x >>= f = .ok b ↔ ∃ a, x = .ok a ∧ f a = .ok b := by
  cases x with
  | error cause => simp [bind, Except.bind]
  | ok a => simp [bind, Except.bind]

theorem foldlM_follow_cons {last : Place} :
    (part :: parts).foldlM Place.follow place = .ok last ↔
      ∃ next, place.follow part = .ok next ∧ parts.foldlM Place.follow next = .ok last := by
  rw [List.foldlM_cons, bind_eq_ok]

theorem foldlM_follow_append {last : Place} {parts' : List (List Char)} :
    (parts ++ parts').foldlM Place.follow place = .ok last ↔
      ∃ next, parts.foldlM Place.follow place = .ok next ∧
        parts'.foldlM Place.follow next = .ok last := by
  rw [List.foldlM_append, bind_eq_ok]

/-- From outside no walk leads into the tree. -/
theorem foldlM_follow_outside {last : Place}
    (h : parts.foldlM Place.follow .outside = .ok last) : last = .outside := by
  induction parts with
  | nil => exact (Except.ok.inj h).symm
  | cons part parts ih =>
    obtain ⟨next, hpart, hparts⟩ := foldlM_follow_cons.mp h
    rw [Place.follow] at hpart
    split at hpart
    next =>
      rw [← Except.ok.inj hpart] at hparts
      exact ih hparts
    next => exact absurd hpart (by simp)

/-- A walk that ends in the tree has taken the way of the names. -/
theorem IsAt.walk (h : IsAt tree names place)
    (hwalk : parts.foldlM Place.follow place = .ok (.inside above below)) :
    ∃ names', followNames names parts = some names' ∧ IsAt tree names' (.inside above below) := by
  induction parts generalizing names place with
  | nil =>
    rw [← Except.ok.inj hwalk]
    exact ⟨names, rfl, h⟩
  | cons part parts ih =>
    obtain ⟨next, hpart, hparts⟩ := foldlM_follow_cons.mp hwalk
    cases next with
    | outside => exact absurd (foldlM_follow_outside hparts) (by simp)
    | inside above' t =>
      obtain ⟨names', hname, hat⟩ := h.follow hpart
      obtain ⟨names'', hnames, hat'⟩ := ih hat hparts
      exact ⟨names'', by rw [followNames_cons, hname]; exact hnames, hat'⟩

/-! ## What is read -/

/-- What is read is a file of the tree, found on a walk that begins in it. -/
theorem walk_of_read {text : String} (h : tree.read (String.ofList path) = .ok text) :
    ∃ above content, (Split.splitOn (· == '/') path).foldlM Place.follow (.inside [] tree) =
      .ok (.inside above (file content)) ∧ String.fromUTF8? content = some text := by
  unfold read at h
  simp only [String.toList_ofList] at h
  split at h
  next => exact absurd h (by simp)
  split at h
  next => exact absurd h (by simp)
  split at h
  next => exact absurd h (by simp)
  -- a path with a zero in it, an empty one and one that is too long are refused before the walk
  obtain ⟨place, hfind, hfile⟩ := bind_eq_ok.mp h
  unfold find at hfind
  dsimp only at hfind
  split at hfind
  next =>
    rw [foldlM_follow_outside hfind] at hfile
    exact absurd hfile (by simp)
  next =>
    split at hfile
    next above content =>
      split at hfile
      next found htext =>
        exact ⟨above, content, hfind, htext.trans (congrArg some (Except.ok.inj hfile))⟩
      next => exact absurd hfile (by simp)
    next => exact absurd hfile (by simp)

theorem read_of_fetchFile {read : String → Except ReadError String} {root href text : String}
    (h : Source.fetchFile read root href = .ok (some text)) :
    read (Source.filePath root href) = .ok text := by
  unfold Source.fetchFile at h
  split at h
  next => exact absurd h (by simp)
  next =>
    split at h
    next found hfound => rw [hfound, Option.some.inj (Except.ok.inj h)]
    next => exact absurd h (by simp)

/-- Whatever a directory of files serves for a reference is the text of the file to which the path
of the reference leads from that directory. If the path does not rise above its start on the way,
that file lies in the directory. -/
theorem served_file_lies_where_the_path_leads {root href text : String}
    (h : Source.fetchFile tree.read root href = .ok (some text)) :
    let path := Source.referencePath href.toList
    ∃ base entries names content, resolve? [] root.toList = some base ∧
      at? base tree = some (directory entries) ∧
      resolve? base path = some names ∧ at? names tree = some (file content) ∧
      String.fromUTF8? content = some text ∧
      ∀ below, resolve? [] path = some below → names = base ++ below := by
  intro path
  obtain ⟨above, content, hwalk, htext⟩ := walk_of_read (read_of_fetchFile h)
  obtain ⟨front, hsplit, hfront⟩ := exists_splitOn_joinPath root.toList path
  rw [hsplit, foldlM_follow_append] at hwalk
  obtain ⟨place, hroot, hpath⟩ := hwalk
  cases place with
  | outside => exact absurd (foldlM_follow_outside hpath) (by simp)
  | inside above' t =>
    obtain ⟨base, hbase, hat⟩ := IsAt.top.walk hroot
    obtain ⟨names, hnames, hat'⟩ := hat.walk hpath
    rw [hfront] at hbase
    cases t with
    | file held =>
      -- a path goes on behind the directory, if only with an empty name, and behind a file none can
      obtain ⟨part, parts, hparts⟩ :=
        List.exists_cons_of_ne_nil (Split.splitOn_ne_nil (· == '/') path)
      rw [hparts, foldlM_follow_cons] at hpath
      obtain ⟨next, hnext, -⟩ := hpath
      exact absurd hnext (by simp [Place.follow])
    | directory entries =>
      refine ⟨base, entries, names, content, hbase, hat.at?_eq, hnames, hat'.at?_eq, htext, ?_⟩
      intro below hbelow
      exact Option.some.inj (hnames.symm.trans (resolve?_of_resolve?_nil hbelow base))

/-- A directory of stylesheets, and a file beside it. -/
def siteTree : FileTree :=
  directory [("secret.css", file "s".toUTF8), ("site", directory [("a.css", file "a".toUTF8)])]

theorem sheet_of_the_site_is_served :
    Source.fetchFile siteTree.read "site/" "/./a.css?v=2" = .ok (some "a") ∧
      ∃ content, at? ["site", "a.css"] siteTree = some (file content) ∧
        String.fromUTF8? content = some "a" := by
  have hserved : Source.fetchFile siteTree.read "site/" "/./a.css?v=2" = .ok (some "a") := by
    decide +kernel
  obtain ⟨base, entries, names, content, hbase, -, -, hfile, htext, hbelow⟩ :=
    served_file_lies_where_the_path_leads hserved
  have hsite : resolve? [] "site/".toList = some ["site"] := by decide +kernel
  obtain rfl := Option.some.inj (hsite.symm.trans hbase)
  obtain rfl := hbelow ["a.css"] (by decide +kernel)
  exact ⟨hserved, content, hfile, htext⟩

theorem file_beside_the_site_is_served :
    Source.fetchFile siteTree.read "site" "../secret.css" = .ok (some "s") ∧
      ∀ below content, at? ("site" :: below) siteTree = some (file content) →
        String.fromUTF8? content ≠ some "s" := by
  refine ⟨by decide +kernel, fun below content h => ?_⟩
  have hsite : lookup? "site" siteTree.entries =
      some (directory [("a.css", file "a".toUTF8)]) := rfl
  rw [at?, hsite, Option.bind_some] at h
  -- the one file below has another text
  cases below with
  | nil => exact absurd h (by simp [at?])
  | cons name below =>
    obtain ⟨t, ht, hbelow⟩ := Option.bind_eq_some_iff.mp h
    obtain rfl : t = file "a".toUTF8 := by
      simp only [lookup?, entries, List.find?_cons, List.find?_nil] at ht
      split at ht <;> simp_all
    cases below with
    | nil =>
      obtain rfl := file.inj (Option.some.inj hbelow)
      decide +kernel
    | cons name below => exact absurd hbelow (by simp [at?, entries, lookup?])

end MediaQuery.FileTree
