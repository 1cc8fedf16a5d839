import Mathlib.Data.List.DropRight
import MediaQuery.Css.Sheet
import MediaQuery.Files.Source
import MediaQuery.Files.Tree
import MediaQuery.Proofs.Css.Relocation
import MediaQuery.Proofs.Text.Run
import MediaQuery.Proofs.Text.Spelling

/-!
# References with a query or a fragment

Two readers look at the same reference: a directory of files cuts a query or a fragment off before
it looks for the file, and a sheet takes its own directory from the reference as it stands. They
agree as long as what is cut off has no slash in it; a slash there becomes part of the directory,
and the name of the sheet becomes the name of a directory on the way.

* `suffix_counts_for_the_directory_only` — what a query or a fragment changes and what it keeps
* `slash_in_a_query_moves_references` — a sheet whose references it changes
-/

namespace MediaQuery

variable {href more : List Char}

/-- What may be put behind a reference and is no part of its path: nothing, a query or a
fragment. -/
def BehindPath (more : List Char) : Prop := ∀ c, more.head? = some c → c = '?' ∨ c = '#'

/-! ## The file -/

theorem BehindPath.stopsAt {p : Char → Bool} (h : BehindPath more) (hquery : p '?' = false)
    (hfragment : p '#' = false) : StopsAt p more := by
  intro c hc
  rcases h c hc with rfl | rfl
  · exact hquery
  · exact hfragment

theorem Url.namesHost_eq_true_iff : Url.namesHost href = true ↔
    ['/', '/'] <+: href.dropWhile fun c => c.isAlpha || c == ':' := by
  unfold Url.namesHost
  split
  · next rest heq => simp [heq]
  · next hne =>
    refine iff_of_false (by simp) ?_
    rintro ⟨rest, heq⟩
    exact hne rest heq.symm

/-- Two slashes are not completed by a query or a fragment. -/
theorem BehindPath.slashes_prefix_append (h : BehindPath more) (cs : List Char) :
    ['/', '/'] <+: cs ++ more ↔ ['/', '/'] <+: cs := by
  have hslash : ¬ ['/'] <+: more := by
    rintro ⟨rest, rfl⟩
    exact absurd (h '/' rfl) (by decide)
  match cs with
  | [] =>
    refine iff_of_false (fun hprefix => hslash ?_) (by simp)
    exact (List.prefix_append ['/'] ['/']).trans hprefix
  | [c] => simp [hslash]
  | _ :: _ :: _ => simp

/-- A query or a fragment names no host. -/
theorem BehindPath.namesHost_append (h : BehindPath more) (href : List Char) :
    Url.namesHost (href ++ more) = Url.namesHost href := by
  rw [Bool.eq_iff_iff, Url.namesHost_eq_true_iff, Url.namesHost_eq_true_iff]
  obtain ⟨run, rest, rfl, hrun, hrest⟩ := exists_run (fun c => c.isAlpha || c == ':') href
  rw [dropWhile_run hrun hrest, List.append_assoc]
  have hstops : StopsAt (fun c => c.isAlpha || c == ':') (rest ++ more) := by
    cases rest with
    | nil => exact h.stopsAt (by decide) (by decide)
    | cons c rest => exact stopsAt_cons (hrest c rfl)
  rw [dropWhile_run hrun hstops, h.slashes_prefix_append]

namespace Source

/-- Two answers to references that may be spelled differently: the same text, no text both times, or
failures of the same cause. -/
inductive AnswersAlike :
    Except Failure (Option String) → Except Failure (Option String) → Prop where
  | answer (text : Option String) : AnswersAlike (.ok text) (.ok text)
  | failure (href href' : String) (cause : ReadError) :
    AnswersAlike (.error (.sheet href cause)) (.error (.sheet href' cause))

/-- The same file is looked for with a query or a fragment and without. -/
theorem answersAlike_append (read : String → Except ReadError String) (root : String)
    {href more : String} (hhref : ∀ c ∈ href.toList, c ≠ '?' ∧ c ≠ '#')
    (hmore : BehindPath more.toList) :
    AnswersAlike (fetchFile read root (href ++ more)) (fetchFile read root href) := by
  have hpath : filePath root (href ++ more) = filePath root href := by
    have hkept : ∀ c ∈ href.toList, (c != '?' && c != '#') = true := fun c hc => by
      simpa using hhref c hc
    have hcut : more.toList.head?.all (fun c => !(c != '?' && c != '#')) = true := by
      cases hhead : more.toList.head? with
      | none => rfl
      | some c => rcases hmore c hhead with rfl | rfl <;> rfl
    rw [filePath, String.toList_append, referencePath_append hkept hcut]
    rfl
  rw [fetchFile, fetchFile, String.toList_append, hmore.namesHost_append, hpath]
  split
  · exact .answer none
  · cases read (filePath root href) with
    | ok text => exact .answer (some text)
    | error cause => exact .failure _ _ cause

end Source

/-! ## The directory -/

namespace Css

theorem directory_append_of_not_mem (h : '/' ∉ more) (href : List Char) :
    directory (href ++ more) = directory href := by
  have hmore : ∀ c ∈ more.reverse, (c != '/') = true := fun c hc =>
    bne_iff_ne.mpr (ne_of_mem_of_not_mem (List.mem_reverse.mp hc) h)
  rw [directory, List.reverse_append, List.dropWhile_append_of_pos hmore, directory]

/-- The last slash decides. -/
theorem directory_append_of_mem (h : '/' ∈ more) (href : List Char) :
    directory (href ++ more) = href ++ directory more := by
  have hmore : '/' ∈ more.reverse := List.mem_reverse.mpr h
  rw [directory, List.reverse_append, dropWhile_append_of_mem hmore (by decide),
    List.reverse_append, List.reverse_reverse, directory]

theorem mem_directory (h : '/' ∈ more) : '/' ∈ directory more :=
  List.mem_reverse.mpr (mem_dropWhile_of_mem (List.mem_reverse.mpr h) (by decide))

theorem directory_eq_rdropWhile (href : List Char) :
    directory href = href.rdropWhile (· != '/') := rfl

theorem directory_directory (href : List Char) : directory (directory href) = directory href := by
  rw [directory_eq_rdropWhile, directory_eq_rdropWhile]
  exact List.rdropWhile_idempotent _ href

/-- A slash behind a reference leads into another directory. -/
theorem directory_append_ne (h : '/' ∈ more) (href : List Char) :
    directory (href ++ more) ≠ directory href := by
  intro heq
  have hlength := congrArg List.length heq
  rw [directory_append_of_mem h, List.length_append] at hlength
  have hpos := List.length_pos_of_mem (mem_directory h)
  have hle : (directory href).length ≤ href.length := (List.rdropWhile_prefix _ href).length_le
  omega

/-- A reference shows the directory that it is moved to. -/
theorem relocate_reference (dir : List Char) :
    relocate (opener ++ "bb)".toList) dir = opener ++ (dir ++ "bb)".toList) := by
  unfold relocate
  split
  · next hnil => rw [List.isEmpty_iff.mp hnil, List.nil_append]
  · have hrelative : relative? "bb)".toList = some ("bb".toList, []) := by decide +kernel
    rw [prepend_of_relative hrelative, prepend]
    rfl

end Css

namespace MediaBlock

/-- A sheet has no more of its reference than the directory. -/
theorem ofSheet_eq_of_directory {href href' : String}
    (h : Css.directory href.toList = Css.directory href'.toList) (text : String)
    (media : Option String) : ofSheet text href media = ofSheet text href' media := by
  unfold ofSheet
  rw [h]

/-- And nothing of it goes into the conditions. -/
theorem conditions_ofSheet (text href href' : String) (media : Option String) :
    (ofSheet text href media).map conditions = (ofSheet text href' media).map conditions := by
  unfold ofSheet
  dsimp only
  split
  · split <;> rfl
  · rw [List.map_map, List.map_map]
    rfl

/-- Sheets in two directories are read alike only if the directories are the same. -/
theorem directory_eq_of_ofSheet_eq {href href' : String}
    (h : ∀ text media, ofSheet text href media = ofSheet text href' media) :
    Css.directory href.toList = Css.directory href'.toList := by
  -- one reference, in a sheet that a media attribute guards as a whole
  let text := Css.opener ++ "bb)".toList
  have hsheet : ∀ href : String, (ofSheet (String.ofList text) href (some "print")).map body =
      [String.ofList (Css.opener ++ (Css.directory href.toList ++ "bb)".toList))] := by
    intro href
    have hblocks : Css.mediaBlocks text = [] := by decide +kernel
    unfold ofSheet
    rw [String.toList_ofList, hblocks, ← Css.relocate_reference]
    rfl
  have hbodies := congrArg (List.map body) (h (String.ofList text) (some "print"))
  rw [hsheet, hsheet] at hbodies
  have hmoved := String.ofList_inj.mp (List.cons.inj hbodies).1
  exact List.append_cancel_right (List.append_cancel_left hmoved)

end MediaBlock

/-- A query or a fragment behind a reference leads to the same file, or to the same failure, and the
sheet in it has its blocks under the same conditions. The blocks themselves are the same for every
sheet exactly if there is no slash in what is put behind; else references are moved to a directory
under the name of the sheet. -/
theorem suffix_counts_for_the_directory_only {href more : String}
    (hhref : ∀ c ∈ href.toList, c ≠ '?' ∧ c ≠ '#') (hmore : BehindPath more.toList) :
    (∀ read root, Source.AnswersAlike (Source.fetchFile read root (href ++ more))
      (Source.fetchFile read root href)) ∧
    (∀ text media, (MediaBlock.ofSheet text (href ++ more) media).map MediaBlock.conditions =
      (MediaBlock.ofSheet text href media).map MediaBlock.conditions) ∧
    ((∀ text media, MediaBlock.ofSheet text (href ++ more) media =
      MediaBlock.ofSheet text href media) ↔ '/' ∉ more.toList) ∧
    ('/' ∈ more.toList → ∀ text media, MediaBlock.ofSheet text (href ++ more) media =
      MediaBlock.ofSheet text (href ++ String.ofList (Css.directory more.toList)) media) := by
  refine ⟨fun read root => Source.answersAlike_append read root hhref hmore,
    fun text media => MediaBlock.conditions_ofSheet .., ⟨fun hsame hslash => ?_, ?_⟩, ?_⟩
  · have hdir := MediaBlock.directory_eq_of_ofSheet_eq hsame
    rw [String.toList_append] at hdir
    exact Css.directory_append_ne hslash _ hdir
  · intro hslash
    refine MediaBlock.ofSheet_eq_of_directory ?_
    rw [String.toList_append, Css.directory_append_of_not_mem hslash]
  · intro hslash
    refine MediaBlock.ofSheet_eq_of_directory ?_
    rw [String.toList_append, String.toList_append, String.toList_ofList,
      Css.directory_append_of_mem hslash, Css.directory_append_of_mem (Css.mem_directory hslash),
      Css.directory_directory]

theorem version_of_a_sheet_is_loaded_alike :
    (∀ c ∈ "css/a.css".toList, c ≠ '?' ∧ c ≠ '#') ∧ BehindPath "?v=2".toList ∧
      (∀ read root, Source.AnswersAlike (Source.fetchFile read root "css/a.css?v=2")
        (Source.fetchFile read root "css/a.css")) ∧
      ∀ text media, MediaBlock.ofSheet text "css/a.css?v=2" media =
        MediaBlock.ofSheet text "css/a.css" media := by
  have hhref : ∀ c ∈ "css/a.css".toList, c ≠ '?' ∧ c ≠ '#' := forall_mem_of_all (by decide +kernel)
  have hmore : BehindPath "?v=2".toList := by
    rintro c hc
    exact Or.inl (Option.some.inj hc).symm
  obtain ⟨hfile, -, hblocks, -⟩ := suffix_counts_for_the_directory_only hhref hmore
  exact ⟨hhref, hmore, hfile, hblocks.mpr (by decide +kernel)⟩

/-- A sheet with a reference, in a directory. -/
def styledTree : FileTree :=
  .directory [("css", .directory
    [("a.css", .file "@media print{a{background:url(b.png)}}".toUTF8)])]

theorem slash_in_a_query_moves_references :
    let text := "@media print{a{background:url(b.png)}}"
    Source.fetchFile styledTree.read "" "css/a.css" = .ok (some text) ∧
      Source.fetchFile styledTree.read "" ("css/a.css" ++ "?x/y") = .ok (some text) ∧
      (MediaBlock.ofSheet text "css/a.css" none).map MediaBlock.body =
        ["a{background:url(css/b.png)}"] ∧
      (MediaBlock.ofSheet text ("css/a.css" ++ "?x/y") none).map MediaBlock.body =
        ["a{background:url(css/a.css?x/b.png)}"] := by
  intro text
  refine ⟨?_, ?_, ?_, ?_⟩ <;> decide +kernel

end MediaQuery
