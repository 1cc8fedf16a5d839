import Mathlib.Data.List.Induction
import MediaQuery.Proofs.Files.Containment
import MediaQuery.Proofs.Text.Run

/-!
# References that rise above a directory

A directory of files is served by walking from it along the path of a reference, and nothing looks
at where the walk has led. With two dots for each name on the way to the directory a reference
comes to the top of the tree, and from there to whatever file its names spell.

* `every_file_is_served_from_below` — no file of the tree is out of reach
-/

namespace MediaQuery.FileTree

variable {tree below : FileTree} {above : List FileTree} {base names : List String}
  {path part : List Char} {parts : List (List Char)}

/-! ## Walks along names -/

/-- A name that a path can go through and that a reference can spell. -/
structure IsPlain (name : String) : Prop where
  ne_nil : name.toList ≠ []
  ne_dot : name.toList ≠ ['.']
  ne_dots : name.toList ≠ ['.', '.']
  plain : ∀ c ∈ name.toList, c ≠ '/' ∧ c ≠ '?' ∧ c ≠ '#' ∧ c ≠ '\x00'

/-- The path through some names. -/
def pathOf (names : List (List Char)) : List Char := Split.join '/' names

/-- A way up by so many steps and then down some names. -/
def detour (height : Nat) (names : List String) : List (List Char) :=
  List.replicate height ['.', '.'] ++ names.map String.toList

theorem follow_of_isPlain {name : String} (hname : IsPlain name) {entries}
    (hlookup : lookup? name entries = some below) :
    (Place.inside above (directory entries)).follow name.toList =
      .ok (.inside (directory entries :: above) below) := by
  unfold Place.follow
  dsimp only
  rw [if_neg (by simp [hname.ne_nil, hname.ne_dot]), if_neg (by simpa using hname.ne_dots),
    String.ofList_toList, hlookup]

/-- The names of what lies in a tree are a way to it. -/
theorem IsAt.walk_names (hnames : ∀ name ∈ names, IsPlain name)
    (h : at? names tree = some below) :
    ∃ above, IsAt tree names (.inside above below) ∧
      (names.map String.toList).foldlM Place.follow (.inside [] tree) =
        .ok (.inside above below) := by
  induction names using List.reverseRecOn generalizing below with
  | nil =>
    obtain rfl := Option.some.inj h
    exact ⟨[], .top, rfl⟩
  | append_singleton names name ih =>
    obtain ⟨hbefore, hname⟩ := List.forall_mem_append.mp hnames
    rw [at?_concat] at h
    obtain ⟨t, ht, hlookup⟩ := Option.bind_eq_some_iff.mp h
    obtain ⟨above, hat, hwalk⟩ := ih hbefore ht
    cases t with
    | file content => exact absurd hlookup (by simp [entries, lookup?])
    | directory entries =>
      refine ⟨directory entries :: above, hat.entry hlookup, ?_⟩
      rw [List.map_append, foldlM_follow_append]
      refine ⟨_, hwalk, ?_⟩
      rw [List.map_singleton, foldlM_follow_cons]
      exact ⟨_, follow_of_isPlain (hname name (List.mem_singleton_self _)) hlookup, rfl⟩

/-- As many steps up as there are names lead back to the top of the tree. -/
theorem IsAt.walk_up {entries : List (String × FileTree)}
    (h : IsAt tree names (.inside above (directory entries))) :
    (List.replicate names.length ['.', '.']).foldlM Place.follow
      (.inside above (directory entries)) = .ok (.inside [] tree) := by
  generalize hplace : Place.inside above (directory entries) = place at h ⊢
  induction h generalizing above entries with
  | top => rfl
  | @entry names above' entries' name below h hname ih =>
    rw [List.length_append, List.length_singleton, List.replicate_succ, foldlM_follow_cons]
    obtain ⟨-, rfl⟩ := Place.inside.inj hplace
    exact ⟨_, rfl, ih rfl⟩

/-- Down to a directory, up again and down to what lies under any names. -/
theorem walk_detour {entries : List (String × FileTree)}
    (hplain : ∀ name ∈ base ++ names, IsPlain name)
    (hbase : at? base tree = some (directory entries)) (hnames : at? names tree = some below) :
    ∃ above, (base.map String.toList ++ detour base.length names).foldlM Place.follow
      (.inside [] tree) = .ok (.inside above below) := by
  obtain ⟨hbefore, hbehind⟩ := List.forall_mem_append.mp hplain
  obtain ⟨_, hat, hdown⟩ := IsAt.walk_names hbefore hbase
  obtain ⟨above, -, hend⟩ := IsAt.walk_names hbehind hnames
  refine ⟨above, foldlM_follow_append.mpr ⟨_, hdown, ?_⟩⟩
  exact foldlM_follow_append.mpr ⟨_, hat.walk_up, hend⟩

theorem splitOn_of_not_mem (h : '/' ∉ part) : Split.splitOn (· == '/') part = [part] := by
  induction part with
  | nil => rfl
  | cons c part ih =>
    rw [List.mem_cons, not_or] at h
    rw [Split.splitOn, if_neg (by simpa using Ne.symm h.1), ih h.2]
    rfl

/-- A path is split into the names that it was put together from. -/
theorem splitOn_pathOf (hne : parts ≠ []) (hparts : ∀ part ∈ parts, '/' ∉ part) :
    Split.splitOn (· == '/') (pathOf parts) = parts := by
  induction parts with
  | nil => exact absurd rfl hne
  | cons part parts ih =>
    obtain ⟨hpart, hrest⟩ := List.forall_mem_cons.mp hparts
    cases parts with
    | nil => exact splitOn_of_not_mem hpart
    | cons next parts =>
      have hjoin : pathOf (part :: next :: parts) = part ++ '/' :: pathOf (next :: parts) := rfl
      rw [hjoin, Split.splitOn_append rfl, splitOn_of_not_mem hpart, ih (by simp) hrest]
      rfl

theorem mem_pathOf {c : Char} (h : c ∈ pathOf parts) : c = '/' ∨ ∃ part ∈ parts, c ∈ part := by
  induction parts with
  | nil => exact absurd h List.not_mem_nil
  | cons part parts ih =>
    cases parts with
    | nil => exact Or.inr ⟨part, by simp, h⟩
    | cons next parts =>
      rcases List.mem_append.mp h with hpart | hrest
      · exact Or.inr ⟨part, by simp, hpart⟩
      rcases List.mem_cons.mp hrest with hslash | hrest
      · exact Or.inl hslash
      · rcases ih hrest with hslash | ⟨other, hother, hc⟩
        · exact Or.inl hslash
        · exact Or.inr ⟨other, List.mem_cons_of_mem _ hother, hc⟩

/-- A path of names begins with none of the slashes that part them, and ends with none. -/
theorem joinPath_pathOf (hne : parts ≠ []) (hparts : ∀ part ∈ parts, part ≠ [] ∧ '/' ∉ part)
    (path : List Char) : Source.joinPath (pathOf parts) path = pathOf parts ++ '/' :: path ∧
      (pathOf parts ++ '/' :: path).head? ≠ some '/' := by
  have hsplit := splitOn_pathOf hne fun part hpart => (hparts part hpart).2
  have hempty : [] ∉ parts := fun hmem => (hparts [] hmem).1 rfl
  constructor
  · rw [Source.joinPath, if_neg]
    rw [Bool.or_eq_true, List.isEmpty_iff, beq_iff_eq]
    rintro (hnil | hlast)
    · rw [hnil] at hsplit
      exact hempty (hsplit ▸ by simp [Split.splitOn])
    · obtain ⟨front, hfront⟩ := List.getLast?_eq_some_iff.mp hlast
      rw [hfront, Split.splitOn_append rfl] at hsplit
      exact hempty (hsplit ▸ by simp [Split.splitOn])
  · intro hhead
    cases hpath : pathOf parts with
    | nil =>
      rw [hpath] at hsplit
      exact hempty (hsplit ▸ by simp [Split.splitOn])
    | cons c rest =>
      rw [hpath] at hhead hsplit
      obtain rfl : c = '/' := by simpa using hhead
      exact hempty (hsplit ▸ by simp [Split.splitOn])

/-- A file is read once a walk leads to it. -/
theorem read_of_walk {content : ByteArray} {text : String} (hne : path ≠ [])
    (hzero : '\x00' ∉ path) (hsize : Size.utf8 path < pathLimit) (hhead : path.head? ≠ some '/')
    (hwalk : (Split.splitOn (· == '/') path).foldlM Place.follow (.inside [] tree) =
      .ok (.inside above (file content)))
    (htext : String.fromUTF8? content = some text) :
    tree.read (String.ofList path) = .ok text := by
  have hfind : tree.find path = .ok (.inside above (file content)) := by
    unfold find
    dsimp only
    rw [if_neg (by simpa using hhead), hwalk]
  unfold read
  simp only [String.toList_ofList]
  rw [if_neg (by simpa using hzero), if_neg (by simpa using hne),
    if_neg (Nat.not_le.mpr hsize)]
  refine bind_eq_ok.mpr ⟨_, hfind, ?_⟩
  simp only [htext]

/-! ## References that rise -/

theorem forall_mem_detour (hplain : ∀ name ∈ names, IsPlain name) {height : Nat} :
    ∀ part ∈ detour height names, ∀ c ∈ part, c ≠ '/' ∧ c ≠ '?' ∧ c ≠ '#' ∧ c ≠ '\x00' := by
  intro part hpart c hc
  rcases List.mem_append.mp hpart with hup | hdown
  · rw [List.eq_of_mem_replicate hup] at hc
    obtain rfl : c = '.' := by simpa using hc
    decide
  · obtain ⟨name, hname, rfl⟩ := List.mem_map.mp hdown
    exact (hplain name hname).plain c hc

theorem forall_mem_pathOf_detour (hplain : ∀ name ∈ names, IsPlain name) {height : Nat} :
    ∀ c ∈ pathOf (detour height names), c ≠ '?' ∧ c ≠ '#' ∧ c ≠ '\x00' := by
  intro c hc
  rcases mem_pathOf hc with rfl | ⟨part, hpart, hc⟩
  · decide
  · exact (forall_mem_detour hplain part hpart c hc).2

theorem exists_pathOf_detour_eq (height : Nat) (names : List String) :
    ∃ rest, pathOf (detour (height + 1) names) = '.' :: rest := by
  show ∃ rest, pathOf (['.', '.'] :: detour height names) = '.' :: rest
  cases detour height names <;> exact ⟨_, rfl⟩

/-- A reference that begins with a dot and has no query and no fragment names no host, and nothing
of it is cut off. -/
theorem fetchFile_of_dot {read : String → Except ReadError String} {text : String}
    {root rest : List Char} (hrest : ∀ c ∈ '.' :: rest, c ≠ '?' ∧ c ≠ '#')
    (hread : read (String.ofList (Source.joinPath root ('.' :: rest))) = .ok text) :
    Source.fetchFile read (String.ofList root) (String.ofList ('.' :: rest)) =
      .ok (some text) := by
  have hhost : Url.namesHost ('.' :: rest) = false := rfl
  have hreference : Source.referencePath ('.' :: rest) = '.' :: rest := by
    have hkept : ∀ c ∈ '.' :: rest, (c != '?' && c != '#') = true := fun c hc => by
      simp [hrest c hc]
    have hall := takeWhile_run hkept stopsAt_nil
    rw [List.append_nil] at hall
    rw [Source.referencePath, hall]
    rfl
  rw [Source.fetchFile, String.toList_ofList, hhost, Source.filePath, String.toList_ofList,
    String.toList_ofList, hreference, hread]
  rfl

/-- Whatever directory of a tree is served, a reference that rises above it is answered with the
text of any file of the tree, also of one that does not lie in the directory. -/
theorem every_file_is_served_from_below {entries : List (String × FileTree)} {content : ByteArray}
    {text : String} (hbase : base ≠ []) (hroot : at? base tree = some (directory entries))
    (hfile : at? names tree = some (file content)) (htext : String.fromUTF8? content = some text)
    (hplain : ∀ name ∈ base ++ names, IsPlain name) :
    let root := pathOf (base.map String.toList)
    let href := pathOf (detour base.length names)
    Size.utf8 (root ++ '/' :: href) < pathLimit →
      Source.fetchFile tree.read (String.ofList root) (String.ofList href) = .ok (some text) := by
  intro root href hsize
  obtain ⟨hbefore, hbehind⟩ := List.forall_mem_append.mp hplain
  have hparts : ∀ part ∈ base.map String.toList, part ≠ [] ∧ '/' ∉ part := by
    intro part hpart
    obtain ⟨name, hname, rfl⟩ := List.mem_map.mp hpart
    exact ⟨(hbefore name hname).ne_nil, fun hmem => ((hbefore name hname).plain _ hmem).1 rfl⟩
  have hhref : ∀ c ∈ href, c ≠ '?' ∧ c ≠ '#' ∧ c ≠ '\x00' := forall_mem_pathOf_detour hbehind
  have hrootzero : '\x00' ∉ root := by
    intro hzero
    rcases mem_pathOf hzero with hslash | ⟨part, hpart, hc⟩
    · exact absurd hslash (by decide)
    · obtain ⟨name, hname, rfl⟩ := List.mem_map.mp hpart
      exact ((hbefore name hname).plain _ hc).2.2.2 rfl
  have hzero : '\x00' ∉ root ++ '/' :: href := by
    rw [List.mem_append, List.mem_cons, not_or, not_or]
    exact ⟨hrootzero, by decide, fun hzero => (hhref _ hzero).2.2 rfl⟩
  have hsplit : Split.splitOn (· == '/') (root ++ '/' :: href) =
      base.map String.toList ++ detour base.length names := by
    rw [Split.splitOn_append rfl, splitOn_pathOf (by simpa using hbase) fun part hpart =>
      (hparts part hpart).2]
    rw [splitOn_pathOf ?_ fun part hpart hmem => (forall_mem_detour hbehind part hpart _ hmem).1 rfl]
    simpa [detour] using fun h : base = [] => absurd h hbase
  -- the path that is walked leads to the root, back up from it, and down to the file
  obtain ⟨hjoin, hhead⟩ := joinPath_pathOf (by simpa using hbase) hparts href
  obtain ⟨above, hwalk⟩ := walk_detour hplain hroot hfile
  have hread : tree.read (String.ofList (Source.joinPath root href)) = .ok text := by
    rw [← hsplit] at hwalk
    rw [hjoin]
    exact read_of_walk (by simp) hzero hsize hhead hwalk htext
  obtain ⟨first, more, rfl⟩ := List.exists_cons_of_ne_nil hbase
  obtain ⟨rest, hdot⟩ := exists_pathOf_detour_eq more.length names
  have hdot' : href = '.' :: rest := hdot
  rw [hdot'] at hhref hread ⊢
  exact fetchFile_of_dot (fun c hc => ⟨(hhref c hc).1, (hhref c hc).2.1⟩) hread

end MediaQuery.FileTree
