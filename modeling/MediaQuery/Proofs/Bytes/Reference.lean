import MediaQuery.Bytes.Reference
import MediaQuery.Proofs.Bytes.Condition
import MediaQuery.Proofs.Bytes.Sheet
import MediaQuery.Proofs.Css.Relocation
import MediaQuery.Proofs.Files.Suffix

/-!
# References and sheets by byte

The search for references cuts a stylesheet where it has found one and behind it, and both are
places between two characters. The directory of a sheet and what is left of a reference behind the
letters it begins with are cut off at ASCII characters.

With this every reader of bytes is known not to slip, whatever text it is given.

* `readers_of_bytes_never_slip` — the law for stylesheets, lists, references and files
-/

namespace MediaQuery.Bytes

variable {c d : Char} {cs rest word arg css dir href : List Char} {bytes : List UInt8} {i : Nat}

/-! ## Relative references -/

theorem IsLeft.skipQuote (h : IsLeft bytes i cs) :
    IsLeft bytes (Bytes.skipQuote bytes i) (Css.dropQuote cs) := by
  rw [Bytes.skipQuote, standsAt_eq h (by decide), standsAt_eq h (by decide)]
  cases cs with
  | nil => exact h
  | cons c cs =>
    cases hquote : Css.Shield.isQuote c with
    | true =>
      have hstands : (some c == some '"' || some c == some '\'') = true := hquote
      rw [List.head?_cons, if_pos hstands, Css.dropQuote_of_isQuote hquote]
      exact h.tail (toNat_lt_of_isQuote hquote)
    | false =>
      have hstands : (some c == some '"' || some c == some '\'') = false := hquote
      rw [List.head?_cons, hstands, Css.dropQuote_of_stopsAt (stopsAt_cons hquote)]
      exact h

theorem isAsciiClass_endsPath : IsAsciiClass fun c => !Css.endsPath c := by
  refine IsAsciiClass.not (isAsciiClass_of_false fun c hc => ?_)
  rw [Css.endsPath, beq_eq_false_of_wide hc (by decide), beq_eq_false_of_wide hc (by decide),
    beq_eq_false_of_wide hc (by decide), beq_eq_false_of_wide hc (by decide)]
  rfl

/-- A path is looked at through its first byte and the number of its bytes. -/
theorem isRelativePath_eq {α : Type} (path : List Char) (other relative : Checked α) :
    (match (utf8 path).head? with
      | none => other
      | some b =>
        if asChar b == '/' || asChar b == '#' || decide ((utf8 path).length < 2) then other
        else relative) =
      if Css.isRelativePath path then relative else other := by
  cases path with
  | nil => rfl
  | cons c path =>
    have hleft := IsLeft.start (c :: path)
    obtain ⟨b, hat, -⟩ := hleft.exists_byte
    have hfirst : ∀ d : Char, d.toNat < 128 → (asChar b == d) = (c == d) := by
      intro d hd
      have hclass := hleft.head?_class (isAsciiClass_beq hd)
      rw [hat] at hclass
      exact Option.some.inj hclass
    have hneg : (c != '/' && c != '#' && decide (2 ≤ Size.utf8 (c :: path))) =
        !(c == '/' || c == '#' || decide (Size.utf8 (c :: path) < 2)) := by
      simp only [bne, Bool.not_or, ← decide_not, Nat.not_lt]
    rw [length_utf8, List.head?_eq_getElem?, hat]
    dsimp only
    rw [hfirst '/' (by decide), hfirst '#' (by decide), Css.isRelativePath, hneg]
    cases c == '/' || c == '#' || decide (Size.utf8 (c :: path) < 2) <;> rfl

/-- A run of a class is cut out of a text up to where it ends. -/
theorem cut_run {p : Char → Bool} (hp : IsAsciiClass p) (h : IsLeft (utf8 arg) i cs)
    (hsuffix : cs <:+ arg) : cut arg i (skipWhile p (utf8 arg) i) = .ok (cs.takeWhile p) := by
  obtain ⟨front, rfl⟩ := hsuffix
  have hsize := h.add_size
  rw [length_utf8, Size.utf8_append] at hsize
  have hfront : i = Size.utf8 front := by omega
  have hstop : skipWhile p (utf8 (front ++ cs)) i = Size.utf8 (front ++ cs.takeWhile p) := by
    rw [h.skipWhile_eq hp, hfront, Size.utf8_append]
  have htext : front ++ cs = front ++ (cs.takeWhile p ++ cs.dropWhile p) := by
    rw [List.takeWhile_append_dropWhile]
  rw [hstop, htext]
  exact cut_append front _ _ hfront rfl

theorem relativeUrl_eq (arg : List Char) :
    relativeUrl arg = .ok ((Css.relative? arg).map fun (path, rest) =>
      (path, Size.utf8 arg - Size.utf8 rest)) := by
  have hpath := (IsLeft.start arg).skipSpace.skipQuote
  have hsuffix : Css.dropQuote (Ascii.skipSpace arg) <:+ arg :=
    (Css.dropQuote_suffix _).trans (List.dropWhile_suffix _)
  have hclosing := (hpath.skipWhile isAsciiClass_endsPath).skipQuote.skipSpace
  rw [relativeUrl, cut_run isAsciiClass_endsPath hpath hsuffix, bind_ok, Css.relative?]
  dsimp only
  refine (isRelativePath_eq _ _ _).trans ?_
  split
  · rw [standsAt_eq hclosing (by decide)]
    have hsize := hclosing.add_size
    rw [length_utf8] at hsize
    cases hrest : Ascii.skipSpace (Css.dropQuote
        ((Css.dropQuote (Ascii.skipSpace arg)).dropWhile fun c => !Css.endsPath c)) with
    | nil => rfl
    | cons c rest =>
      rw [hrest, Size.utf8_cons] at hsize
      by_cases hc : c = ')'
      · subst hc
        have hone : ')'.utf8Size = 1 := rfl
        rw [List.head?_cons, if_pos (beq_self_eq_true _)]
        refine congrArg (fun n => Except.ok (some (_, n)))
          (?_ : _ = Size.utf8 arg - Size.utf8 rest)
        omega
      · rw [if_neg (by simpa using hc)]
        split
        · next heq => exact absurd (List.cons.inj heq).1 hc
        · rfl
  · rfl

/-! ## Moving references -/

/-- Where a word is found first, it begins there, and it is not in the text before. -/
theorem exists_find? (hne : word ≠ []) (cs : List Char) :
    find? word cs = none ∧ ¬ word <:+: cs ∨
      ∃ front rest, cs = front ++ (word ++ rest) ∧ ¬ word <:+: front ∧
        find? word cs = some (Size.utf8 front) := by
  induction cs with
  | nil => exact Or.inl ⟨by simp [find?, hne], by simpa using hne⟩
  | cons c cs ih =>
    rw [find?]
    by_cases hnow : word <+: c :: cs
    · obtain ⟨rest, hrest⟩ := hnow
      refine Or.inr ⟨[], rest, hrest.symm, by simpa using hne, ?_⟩
      rw [if_pos (List.isPrefixOf_iff_prefix.mpr ⟨rest, hrest⟩)]
      rfl
    rw [if_neg (by simpa using hnow)]
    rcases ih with ⟨hnone, hlater⟩ | ⟨front, rest, rfl, hfront, hfound⟩
    · exact Or.inl ⟨by rw [hnone]; rfl, by simp [List.infix_cons_iff, hnow, hlater]⟩
    · refine Or.inr ⟨c :: front, rest, rfl, ?_, by rw [hfound, Size.utf8_cons, Nat.add_comm]; rfl⟩
      rw [List.infix_cons_iff, not_or]
      refine ⟨fun hbegins => hnow (hbegins.trans ?_), hfront⟩
      exact List.prefix_append (c :: front) _

/-- The search goes on behind a reference that has been moved, or within one that stays. -/
theorem prepend_eq (dir css : List Char) : prepend dir css = .ok (Css.prepend dir css) := by
  have hopener : Css.opener ≠ [] := by decide
  have hfind : find? ['u', 'r', 'l', '('] css = find? Css.opener css := rfl
  rw [prepend, hfind]
  rcases exists_find? hopener css with ⟨hnone, hnot⟩ | ⟨front, arg, rfl, hfront, hfound⟩
  · rw [hnone, Css.prepend_of_not_infix hnot]
    rfl
  have hbehind : Size.utf8 front + 4 = Size.utf8 (front ++ Css.opener) := by
    rw [Size.utf8_append]
    rfl
  have hshorter : arg.length < (front ++ (Css.opener ++ arg)).length := by
    simp [Css.opener]
    omega
  rw [hfound, Css.prepend_append_opener hfront]
  dsimp only
  rw [hbehind, ← List.append_assoc front, textTo_append, bind_ok, textFrom_append, bind_ok,
    relativeUrl_eq, bind_ok, List.append_assoc front]
  cases hrel : Css.relative? arg with
  | none =>
    -- the reference stays as it is, and the search goes on within it
    rw [Css.prepend_of_not_relative hrel]
    dsimp only [Option.map_none]
    rw [if_pos hshorter, prepend_eq dir arg, bind_ok]
    exact congrArg Except.ok (List.append_assoc _ _ _)
  | some found =>
    obtain ⟨path, rest⟩ := found
    -- the reference is moved, and the search goes on behind its parenthesis
    obtain ⟨more, harg⟩ := Css.suffix_of_relative? hrel
    have hparen : arg = (more ++ [')']) ++ rest := by rw [← harg]; simp
    have hconsumed : Size.utf8 arg - Size.utf8 rest = Size.utf8 (more ++ [')']) := by
      rw [hparen, Size.utf8_append, Nat.add_sub_cancel]
    have hrest : textFrom arg (Size.utf8 (more ++ [')'])) = .ok rest := by
      rw [hparen]
      exact textFrom_append _ _
    have hless : rest.length < (front ++ (Css.opener ++ arg)).length := by
      have hlength := congrArg List.length hparen
      rw [List.length_append] at hlength
      omega
    rw [Css.prepend_of_relative hrel]
    dsimp only [Option.map_some]
    rw [hconsumed, hrest, bind_ok, if_pos hless, prepend_eq dir rest, bind_ok]
    exact congrArg Except.ok (List.append_assoc _ _ _)
termination_by css.length

theorem relocate_eq (css dir : List Char) : relocate css dir = .ok (Css.relocate css dir) := by
  rw [relocate, Css.relocate]
  split
  · rfl
  · exact prepend_eq dir css

/-! ## Directories and hosts -/

/-- Where a character is found last, it stands there, and it is not in the text behind. -/
theorem exists_lastIndexOf? (c : Char) (cs : List Char) :
    lastIndexOf? c cs = none ∧ c ∉ cs ∨
      ∃ a b, cs = a ++ c :: b ∧ c ∉ b ∧ lastIndexOf? c cs = some (Size.utf8 a) := by
  induction cs with
  | nil => exact Or.inl ⟨rfl, List.not_mem_nil⟩
  | cons d cs ih =>
    rw [lastIndexOf?]
    rcases ih with ⟨hnone, hlater⟩ | ⟨a, b, rfl, hb, hfound⟩
    · rw [hnone]
      by_cases hd : d = c
      · subst hd
        exact Or.inr ⟨[], cs, rfl, hlater, by simp⟩
      · exact Or.inl ⟨by simp [hd], by simp [Ne.symm hd, hlater]⟩
    · exact Or.inr ⟨d :: a, b, rfl, hb, by rw [hfound, Size.utf8_cons, Nat.add_comm]⟩

theorem directory_eq (href : List Char) : directory href = .ok (Css.directory href) := by
  rw [directory]
  rcases exists_lastIndexOf? '/' href with ⟨hnone, hslash⟩ | ⟨a, b, rfl, hb, hfound⟩
  · have hempty : Css.directory ([] ++ href) = Css.directory [] :=
      Css.directory_append_of_not_mem hslash []
    rw [List.nil_append] at hempty
    rw [hnone, hempty]
    rfl
  · have htext : a ++ '/' :: b = (a ++ ['/']) ++ b := by simp
    have hsize : Size.utf8 a + 1 = Size.utf8 (a ++ ['/']) := by
      rw [Size.utf8_append]
      rfl
    rw [hfound, htext, Css.directory_append_of_not_mem hb, Css.directory_append_of_mem (by simp)]
    dsimp only
    rw [hsize]
    exact textTo_append _ _

/-- The bytes of a class that a text begins with are those of the characters of the class. -/
theorem takeWhile_utf8 {p : Char → Bool} (hp : ∀ c : Char, 128 ≤ c.toNat → p c = false)
    (cs : List Char) :
    ((utf8 cs).takeWhile fun b => p (asChar b)).length = Size.utf8 (cs.takeWhile p) := by
  induction cs with
  | nil => rfl
  | cons c cs ih =>
    rw [utf8_cons]
    rcases encoding c with ⟨-, b, hb, hc⟩ | ⟨hwide, hhigh⟩
    · rw [hb, List.singleton_append, List.takeWhile_cons, List.takeWhile_cons, hc]
      cases p c with
      | true => simp [ih, utf8Size_eq_one hb, Nat.add_comm]
      | false => rfl
    · obtain ⟨b, bs, hb⟩ := List.exists_cons_of_ne_nil (String.utf8EncodeChar_ne_nil (c := c))
      have hfirst : p (asChar b) = false := hp _ (hhigh b (by rw [hb]; exact List.mem_cons_self))
      rw [hb, List.cons_append, List.takeWhile_cons, hfirst, List.takeWhile_cons, hp c hwide]
      rfl

theorem isAlpha_of_wide (h : 128 ≤ c.toNat) : c.isAlpha = false := by
  refine Bool.eq_false_iff.mpr fun halpha => ?_
  rw [Ascii.isAlpha_eq, Bool.or_eq_true, Ascii.isUpper_iff, Ascii.isLower_iff] at halpha
  omega

theorem namesHost_eq (href : List Char) : namesHost href = .ok (Url.namesHost href) := by
  have hclass : ∀ c : Char, 128 ≤ c.toNat → (c.isAlpha || c == ':') = false := fun c hc => by
    rw [isAlpha_of_wide hc, beq_eq_false_of_wide hc (by decide)]
    rfl
  have hrest : textFrom href (Size.utf8 (href.takeWhile fun c => c.isAlpha || c == ':')) =
      .ok (href.dropWhile fun c => c.isAlpha || c == ':') := by
    have htext := textFrom_append (href.takeWhile fun c => c.isAlpha || c == ':')
      (href.dropWhile fun c => c.isAlpha || c == ':')
    rwa [List.takeWhile_append_dropWhile] at htext
  rw [namesHost, takeWhile_utf8 hclass, hrest, bind_ok]
  refine congrArg Except.ok ?_
  rw [Bool.eq_iff_iff, List.isPrefixOf_iff_prefix, Url.namesHost_eq_true_iff]

/-! ## Sheets and files -/

theorem guarded_eq (query body dir : List Char) :
    guarded query body dir = .ok (MediaBlock.guarded query body dir) := by
  rw [guarded, readList_eq, bind_ok, relocate_eq]
  rfl

theorem ofSheet_eq (text href : String) (media : Option String) :
    ofSheet text href media = .ok (MediaBlock.ofSheet text href media) := by
  have hguarded : ∀ dir, (fun block : Css.RawBlock => guarded block.prelude block.body dir) =
      fun block => pure (MediaBlock.guarded block.prelude block.body dir) := fun dir =>
    funext fun block => guarded_eq block.prelude block.body dir
  rw [ofSheet, directory_eq, bind_ok, scan_eq, bind_ok, MediaBlock.ofSheet, Css.mediaBlocks]
  cases (Css.scan text.toList).1 with
  | nil =>
    cases (media.map fun m => Blank.trim m.toList).filter fun m => !m.isEmpty with
    | none => rfl
    | some query =>
      dsimp only
      rw [guarded_eq]
      rfl
  | cons block blocks =>
    dsimp only
    rw [hguarded]
    exact List.mapM_pure

theorem fetchFile_eq (read : String → Except ReadError String) (root href : String) :
    fetchFile read root href = .ok (Source.fetchFile read root href) := by
  rw [fetchFile, namesHost_eq, bind_ok, Source.fetchFile]
  split
  · rfl
  · cases read (Source.filePath root href) <;> rfl

/-- Whatever text they are given, the readers of bytes stay within its bytes and between its
characters, count below zero nowhere and come to an end: each of them answers, and gives what is
read from the characters. -/
theorem readers_of_bytes_never_slip (text href root : String) (media : Option String)
    (query css dir : List Char) (read : String → Except ReadError String) :
    scan text.toList = .ok (Css.scan text.toList) ∧
      ofSheet text href media = .ok (MediaBlock.ofSheet text href media) ∧
      split ',' query = .ok (Condition.split ',' query) ∧
      Bytes.read query = .ok (Condition.read query) ∧
      readList query = .ok (Condition.readList query) ∧
      relativeUrl css = .ok ((Css.relative? css).map fun (path, rest) =>
        (path, Size.utf8 css - Size.utf8 rest)) ∧
      relocate css dir = .ok (Css.relocate css dir) ∧
      directory href.toList = .ok (Css.directory href.toList) ∧
      namesHost href.toList = .ok (Url.namesHost href.toList) ∧
      fetchFile read root href = .ok (Source.fetchFile read root href) :=
  ⟨scan_eq text.toList, ofSheet_eq text href media, split_eq (by decide) query, read_eq query,
    readList_eq query, relativeUrl_eq css, relocate_eq css dir, directory_eq href.toList,
    namesHost_eq href.toList, fetchFile_eq read root href⟩

end MediaQuery.Bytes
