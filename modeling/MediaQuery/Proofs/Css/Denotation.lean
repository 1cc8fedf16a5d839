import MediaQuery.Proofs.Css.Relocation

/-!
# What a moved reference denotes

A reference to a path is written with or without quotes, and a path may be written in quotes that
could not be written without (`Spelling`). A reference that is moved loses its quotes, and it is
looked through without regard to them: it denotes its path behind the directory exactly if the path
has two bytes and neither the path nor the directory needs quotes (`Movable`).

* `references_denote_the_moved_path` — the law for the three spellings, with any text behind them
-/

namespace MediaQuery.Css

variable {dir path cs rest : List Char} {c : Char}

/-! ## Spellings -/

/-- The ways of writing a reference. -/
inductive Spelling where
  | bare
  | double
  | single
deriving DecidableEq, Repr

/-- Whether a character ends a line, and with it a string. -/
def isNewline (c : Char) : Bool := c == '\n' || c == '\r' || c == '\x0c'

/-- Whether a character is a control character other than white space. A reference without quotes in
which one stands denotes nothing. -/
def isControl (c : Char) : Bool :=
  let n := c.toNat
  n ≤ 0x08 || n == 0x0B || (0x0E ≤ n && n ≤ 0x1F) || n == 0x7F

namespace Spelling

/-- The quote around a path. -/
def quote? : Spelling → Option Char
  | bare => none
  | double => some '"'
  | single => some '\''

/-- Whether a character of a path may be written so, without a backslash. -/
def admits (spelling : Spelling) (c : Char) : Bool :=
  match spelling.quote? with
  | none => !(Ascii.isSpace c || Shield.isQuote c || c == '(' || c == ')' || c == '\\')
  | some quote => c != quote && c != '\\' && !isNewline c

/-- A path may be written so, without a backslash. -/
def Admits (spelling : Spelling) (path : List Char) : Prop := ∀ c ∈ path, spelling.admits c = true

/-- What stands between `url(` and the closing parenthesis. -/
def argument (spelling : Spelling) (path : List Char) : List Char :=
  spelling.quote?.toList ++ (path ++ spelling.quote?.toList)

/-- A reference to a path. -/
def write (spelling : Spelling) (path : List Char) : List Char :=
  opener ++ (spelling.argument path ++ [')'])

theorem isQuoteOrNone_quote? (spelling : Spelling) : IsQuoteOrNone spelling.quote? := by
  cases spelling <;> simp [quote?, IsQuoteOrNone, Shield.isQuote]

theorem admits_bare_iff :
    bare.admits c = true ↔ Ascii.isSpace c = false ∧ Shield.isQuote c = false ∧ c ≠ '(' ∧
      c ≠ ')' ∧ c ≠ '\\' := by
  simp [admits, quote?, and_assoc]

/-- The quote around a path is not in it. -/
theorem ne_of_admits {spelling : Spelling} {quote : Char} (hquote : spelling.quote? = some quote)
    (h : spelling.admits c = true) : c ≠ quote := by
  rw [admits, hquote] at h
  simp only [Bool.and_eq_true, bne_iff_ne] at h
  exact h.1.1

end Spelling

/-- A text is a reference to a path. -/
def IsReferenceTo (path text : List Char) : Prop :=
  ∃ spelling : Spelling, spelling.Admits path ∧
    (spelling = .bare → ∀ c ∈ path, isControl c = false) ∧ text = spelling.write path

/-- A path that is to be read from the directory of the sheet. -/
structure IsLocal (path : List Char) : Prop where
  ne_nil : path ≠ []
  begins : ∀ c, path.head? = some c → c ≠ '/' ∧ c ≠ '#' ∧ Blank.isBlank c = false
  ends : ∀ c, path.getLast? = some c → Blank.isBlank c = false
  no_colon : ':' ∉ path

/-- A path has two bytes, and behind a directory it needs no quotes. -/
structure Movable (dir path : List Char) : Prop where
  two_le_size : 2 ≤ Size.utf8 path
  admits : Spelling.bare.Admits (dir ++ path)
  printable : ∀ c ∈ dir ++ path, isControl c = false

/-! ## Paths that need no quotes -/

theorem endsPath_of_admits (h : Spelling.bare.Admits path) (hpath : IsLocal path) :
    ∀ c ∈ path, endsPath c = false := by
  intro c hc
  obtain ⟨-, hquote, -, hparen, -⟩ := Spelling.admits_bare_iff.mp (h c hc)
  exact endsPath_eq_false_iff.mpr ⟨ne_of_mem_of_not_mem hc hpath.no_colon, hparen, hquote⟩

theorem IsLocal.isRelativePath_eq (hpath : IsLocal path) :
    isRelativePath path = decide (2 ≤ Size.utf8 path) := by
  obtain ⟨c, cs, rfl⟩ := List.exists_cons_of_ne_nil hpath.ne_nil
  obtain ⟨hslash, hsign, -⟩ := hpath.begins c rfl
  simp [isRelativePath, hslash, hsign]

/-- However it is written, a path that needs no quotes is found as it is, if it has two bytes. -/
theorem relative?_argument (spelling : Spelling) (h : Spelling.bare.Admits path)
    (hpath : IsLocal path) :
    relative? (spelling.argument path ++ [')']) =
      if 2 ≤ Size.utf8 path then some (path, []) else none := by
  obtain ⟨c, cs, hcons⟩ := List.exists_cons_of_ne_nil hpath.ne_nil
  have hhead : ∀ tail, StopsAt Ascii.isSpace (path ++ tail) ∧
      StopsAt Shield.isQuote (path ++ tail) := by
    obtain ⟨hspace, hquote, -⟩ := Spelling.admits_bare_iff.mp (h c (by simp [hcons]))
    rw [hcons]
    exact fun _ => ⟨stopsAt_cons hspace, stopsAt_cons hquote⟩
  have hinner : dropQuote (Ascii.skipSpace (spelling.argument path ++ [')'])) =
      path ++ (spelling.quote?.toList ++ [')']) := by
    have hnone : IsSpace [] := by simp [IsSpace]
    have hskip := dropQuote_skipSpace (path ++ (spelling.quote?.toList ++ [')'])) hnone
      spelling.isQuoteOrNone_quote? fun _ => hhead _
    simpa [Spelling.argument] using hskip
  have htail : StopsAt (fun c => !endsPath c) (spelling.quote?.toList ++ [')']) := by
    cases spelling <;> exact stopsAt_cons (by decide)
  have hclose : Ascii.skipSpace (dropQuote (spelling.quote?.toList ++ [')'])) = [')'] := by
    cases spelling <;> decide
  have htrim : Blank.trimRight path = path := by
    have hnone : Blank.allBlank [] = true := rfl
    simpa using Blank.trimRight_append hpath.ends hnone
  rw [relative?_eq hinner (endsPath_of_admits h hpath) htail, htrim, hclose,
    hpath.isRelativePath_eq]
  by_cases hsize : 2 ≤ Size.utf8 path <;> simp [hsize]

/-- A path that needs no quotes behind the directory is written there without. -/
theorem Movable.prepend_write (h : Movable dir path) (hpath : IsLocal path) (spelling : Spelling) :
    prepend dir (spelling.write path) = Spelling.bare.write (dir ++ path) := by
  have hadmits : Spelling.bare.Admits path := (List.forall_mem_append.mp h.admits).2
  have hrel := relative?_argument spelling hadmits hpath
  rw [if_pos h.two_le_size] at hrel
  rw [Spelling.write, prepend_of_relative hrel, prepend]
  simp [Spelling.write, Spelling.argument, Spelling.quote?]

/-! ## Paths that need quotes -/

/-- A sheet stays as it is, or the directory is put behind the beginning of some reference, and what
is in front of it stays as it is. -/
def StaysUpToMove (dir cs : List Char) : Prop :=
  prepend dir cs = cs ∨ ∃ front behind after, cs = front ++ (opener ++ behind) ∧
    prepend dir cs = front ++ (opener ++ (dir ++ after))

theorem StaysUpToMove.append {front : List Char} (h : StaysUpToMove dir cs)
    (hfront : prepend dir (front ++ cs) = front ++ prepend dir cs) :
    StaysUpToMove dir (front ++ cs) := by
  rcases h with heq | ⟨front', behind, after, rfl, heq⟩
  · exact Or.inl (by rw [hfront, heq])
  · exact Or.inr ⟨front ++ front', behind, after, by simp, by rw [hfront, heq]; simp⟩

theorem staysUpToMove (dir cs : List Char) : StaysUpToMove dir cs := by
  induction cs using prepend.induct with
  | case1 => exact Or.inl (by rw [prepend])
  | case2 arg _ ih =>
    change StaysUpToMove dir (opener ++ arg)
    cases hrel : relative? arg with
    | none => exact ih.append (prepend_of_not_relative hrel)
    | some found =>
      obtain ⟨path, rest⟩ := found
      exact Or.inr ⟨[], arg, path ++ ')' :: prepend dir rest, rfl, prepend_of_relative hrel⟩
  | case3 c cs hopen ih =>
    change StaysUpToMove dir ([c] ++ cs)
    refine ih.append (prepend_cons ?_)
    rintro ⟨arg, harg⟩
    obtain ⟨rfl, rfl⟩ := List.cons.inj harg
    exact hopen arg rfl rfl

/-- The directory is put in front of a sheet as a whole only if it could be taken for the end of
what a reference begins with. -/
theorem getLast?_of_prepend_eq (hdir : dir ≠ []) (h : prepend dir cs = dir ++ cs) :
    dir.getLast? = some '(' := by
  rcases staysUpToMove dir cs with heq | ⟨front, behind, after, rfl, heq⟩
  · rw [heq] at h
    exact absurd (List.self_eq_append_left.mp h) hdir
  · -- the directory commutes with what is in front of it, so that both end alike
    have hswap : ((front ++ opener) ++ dir) ++ after = (dir ++ (front ++ opener)) ++ behind := by
      rw [heq] at h
      simpa using h
    have hcomm := (List.append_inj hswap (by simp; omega)).1
    have hlast := congrArg List.getLast? hcomm
    rw [List.getLast?_append, List.getLast?_append, List.getLast?_append] at hlast
    obtain ⟨d, hd⟩ := Option.ne_none_iff_exists'.mp (mt List.getLast?_eq_none_iff.mp hdir)
    rw [hd] at hlast ⊢
    simpa [opener] using hlast

/-- A reference that begins with the directory has no quotes. -/
theorem Spelling.eq_bare_of_write {spelling : Spelling} {text : List Char} (hdir : dir ≠ [])
    (hadmits : spelling.Admits (dir ++ path))
    (h : opener ++ (dir ++ text) = spelling.write (dir ++ path)) : spelling = bare := by
  obtain ⟨d, ds, rfl⟩ := List.exists_cons_of_ne_nil hdir
  cases hquote : spelling.quote? with
  | none => cases spelling <;> first | rfl | exact absurd hquote (by simp [quote?])
  | some quote =>
    have heq : d :: (ds ++ text) = quote :: ((d :: ds ++ path) ++ [quote] ++ [')']) := by
      rw [write, argument, hquote] at h
      simpa using h
    exact absurd (List.cons.inj heq).1 (ne_of_admits hquote (hadmits d (by simp)))

/-- What stands in a reference without quotes is not moved by what is found in it: nothing is. -/
theorem prepend_argument_ne_of_unquoted {spelling spelling' : Spelling} (hdir : dir ≠ [])
    (hquote : spelling.quote? = none) (hspelling : spelling.Admits path) :
    prepend dir (spelling.argument path ++ [')']) ≠ spelling'.argument (dir ++ path) ++ [')'] := by
  intro heq
  have hself : spelling.argument path = path := by simp [Spelling.argument, hquote]
  have hbare : '(' ∉ path ++ [')'] := by
    intro hmem
    have hadmits := hspelling '(' ((List.mem_append.mp hmem).resolve_right (by decide))
    rw [Spelling.admits, hquote] at hadmits
    exact absurd hadmits (by decide)
  have hnot : ¬ opener <:+: path ++ [')'] := fun h => hbare (h.subset (by decide))
  rw [hself, prepend_of_not_infix hnot] at heq
  have hlength := congrArg List.length (List.append_cancel_right heq)
  simp only [Spelling.argument, List.length_append] at hlength
  exact hdir (List.length_eq_zero_iff.mp (by omega))

/-- What stands in quotes is not moved either: its quote stays in front, and behind that the
directory is not put in front of the whole. -/
theorem prepend_argument_ne_of_quoted {spelling spelling' : Spelling} {quote : Char}
    (hdir : dir ≠ []) (hlast : dir.getLast? ≠ some '(') (hquote : spelling.quote? = some quote)
    (hadmits : spelling'.Admits (dir ++ path)) :
    prepend dir (spelling.argument path ++ [')']) ≠ spelling'.argument (dir ++ path) ++ [')'] := by
  intro heq
  have hisQuote := spelling.isQuoteOrNone_quote? quote hquote
  have hopen : ¬ opener <+: quote :: (path ++ [quote, ')']) := by
    rintro ⟨rest, hrest⟩
    rw [← (List.cons.inj hrest).1] at hisQuote
    exact absurd hisQuote (by decide)
  have hself : spelling.argument path ++ [')'] = quote :: (path ++ [quote, ')']) := by
    simp [Spelling.argument, hquote]
  rw [hself, prepend_cons hopen] at heq
  cases hquote' : spelling'.quote? with
  | none =>
    obtain ⟨d, ds, rfl⟩ := List.exists_cons_of_ne_nil hdir
    rw [Spelling.argument, hquote'] at heq
    have hfirst := hadmits d (by simp)
    rw [Spelling.admits, hquote', ← (List.cons.inj heq).1, hisQuote] at hfirst
    exact absurd hfirst (by simp)
  | some quote' =>
    rw [Spelling.argument, hquote'] at heq
    obtain ⟨rfl, htail⟩ := List.cons.inj heq
    exact hlast (getLast?_of_prepend_eq hdir (by simpa using htail))

/-- A reference that is looked through in vain is not moved to its place by what is found in it. -/
theorem not_isReferenceTo_of_none {spelling : Spelling} (hdir : dir ≠ [])
    (hlast : dir.getLast? ≠ some '(') (hspelling : spelling.Admits path)
    (hrel : relative? (spelling.argument path ++ [')']) = none) :
    ¬ IsReferenceTo (dir ++ path) (prepend dir (spelling.write path)) := by
  rintro ⟨spelling', hadmits', -, heq⟩
  rw [Spelling.write, prepend_of_not_relative hrel, Spelling.write] at heq
  have harg := List.append_cancel_left heq
  cases hquote : spelling.quote? with
  | none => exact prepend_argument_ne_of_unquoted hdir hquote hspelling harg
  | some quote => exact prepend_argument_ne_of_quoted hdir hlast hquote hadmits' harg

/-- A path that is moved to its place is movable. -/
theorem movable_of_isReferenceTo {spelling : Spelling} (hdir : dir ≠ [])
    (hlast : dir.getLast? ≠ some '(') (hpath : IsLocal path) (hspelling : spelling.Admits path)
    (h : IsReferenceTo (dir ++ path) (prepend dir (spelling.write path))) : Movable dir path := by
  cases hrel : relative? (spelling.argument path ++ [')']) with
  | none => exact absurd h (not_isReferenceTo_of_none hdir hlast hspelling hrel)
  | some found =>
    obtain ⟨path', rest⟩ := found
    obtain ⟨spelling', hadmits, hprintable, heq⟩ := h
    rw [Spelling.write, prepend_of_relative hrel] at heq
    obtain rfl := Spelling.eq_bare_of_write hdir hadmits heq
    refine ⟨?_, hadmits, hprintable rfl⟩
    rw [relative?_argument spelling (List.forall_mem_append.mp hadmits).2 hpath] at hrel
    split at hrel
    · assumption
    · exact absurd hrel (by simp)

/-! ## The law -/

/-- Behind a reference a sheet is moved as if it stood alone. -/
theorem relocate_write_append (spelling : Spelling) (path rest dir : List Char) :
    relocate (spelling.write path ++ rest) dir =
      relocate (spelling.write path) dir ++ relocate rest dir := by
  unfold relocate
  split
  · rfl
  · have htext : spelling.write path ++ rest =
        (opener ++ spelling.argument path) ++ ')' :: rest := by simp [Spelling.write]
    rw [htext, prepend_append_paren, List.append_assoc, Spelling.write]

/-- Take a path that is to be read from the directory of a sheet, written in any of the three ways
in which it may be written. The text behind the reference is moved by itself, and kept if there is
no reference in it. If the path has two bytes and neither it nor the directory needs quotes, the
reference becomes one to the path behind the directory. If not, it becomes none: not for a directory
that ends as directories do. -/
theorem references_denote_the_moved_path {dir path : List Char} {spelling : Spelling}
    (hdir : dir ≠ []) (hpath : IsLocal path) (hspelling : spelling.Admits path) :
    (∀ rest, relocate (spelling.write path ++ rest) dir =
        relocate (spelling.write path) dir ++ relocate rest dir ∧
      (¬ opener <:+: rest → relocate rest dir = rest)) ∧
      (Movable dir path →
        relocate (spelling.write path) dir = Spelling.bare.write (dir ++ path) ∧
          IsReferenceTo (dir ++ path) (relocate (spelling.write path) dir)) ∧
      (dir.getLast? ≠ some '(' →
        IsReferenceTo (dir ++ path) (relocate (spelling.write path) dir) → Movable dir path) := by
  have hmoves : ∀ css, relocate css dir = prepend dir css := fun css => by
    rw [relocate, if_neg (by simpa using hdir)]
  refine ⟨fun rest => ⟨relocate_write_append spelling path rest dir, fun h => ?_⟩, fun h => ?_,
    fun hlast h => ?_⟩
  · rw [hmoves, prepend_of_not_infix h]
  · rw [hmoves, h.prepend_write hpath]
    exact ⟨rfl, .bare, h.admits, fun _ => h.printable, rfl⟩
  · rw [hmoves] at h
    exact movable_of_isReferenceTo hdir hlast hpath hspelling h

/-- A path of one character and two bytes loses its quotes. -/
theorem short_quoted_path_is_moved :
    "d/".toList ≠ [] ∧ IsLocal ['é'] ∧ Spelling.single.Admits ['é'] ∧
      String.ofList (Spelling.single.write ['é'] ++ ";(b)".toList) = "url('é');(b)" ∧
      relocate (Spelling.single.write ['é'] ++ ";(b)".toList) "d/".toList =
        "url(d/é);(b)".toList ∧
      IsReferenceTo "d/é".toList (relocate (Spelling.single.write ['é']) "d/".toList) := by
  have hdir : "d/".toList ≠ [] := by decide +kernel
  have hlocal : IsLocal ['é'] :=
    ⟨by simp, by simp [Blank.isBlank], by simp [Blank.isBlank], by decide⟩
  have hadmits : Spelling.single.Admits ['é'] := forall_mem_of_all (by decide)
  have hmovable : Movable "d/".toList ['é'] :=
    ⟨by decide, forall_mem_of_all (by decide +kernel), forall_mem_of_all (by decide +kernel)⟩
  obtain ⟨hbehind, hmoved, -⟩ := references_denote_the_moved_path hdir hlocal hadmits
  obtain ⟨hwritten, hreference⟩ := hmoved hmovable
  have hpath : "d/".toList ++ ['é'] = "d/é".toList := by decide +kernel
  obtain ⟨happend, hkept⟩ := hbehind ";(b)".toList
  refine ⟨hdir, hlocal, hadmits, by decide +kernel, ?_, hpath ▸ hreference⟩
  rw [happend, hwritten, hkept (by decide +kernel)]
  decide +kernel

/-- A path of one byte stays where it was, and one that needs its quotes gets to no place at all. -/
theorem local_references_are_lost :
    (IsLocal ['a'] ∧ Spelling.bare.Admits ['a'] ∧
      relocate (Spelling.bare.write ['a']) "d/".toList = "url(a)".toList ∧
      ¬ IsReferenceTo "d/a".toList (relocate (Spelling.bare.write ['a']) "d/".toList)) ∧
    IsLocal "a b".toList ∧ Spelling.double.Admits "a b".toList ∧
      relocate (Spelling.double.write "a b".toList) "d/".toList = "url(d/a b)".toList ∧
      ¬ IsReferenceTo "d/a b".toList
        (relocate (Spelling.double.write "a b".toList) "d/".toList) := by
  have hdir : "d/".toList ≠ [] := by decide +kernel
  have hlast : "d/".toList.getLast? ≠ some '(' := by decide +kernel
  have hone : IsLocal ['a'] :=
    ⟨by simp, by simp [Blank.isBlank], by simp [Blank.isBlank], by decide⟩
  have htwo : IsLocal "a b".toList :=
    ⟨by simp, by simp [Blank.isBlank], by simp [Blank.isBlank], by decide +kernel⟩
  have hbare : Spelling.bare.Admits ['a'] := forall_mem_of_all (by decide)
  have hdouble : Spelling.double.Admits "a b".toList := forall_mem_of_all (by decide +kernel)
  refine ⟨⟨hone, hbare, by decide +kernel, fun h => ?_⟩, htwo, hdouble, by decide +kernel,
    fun h => ?_⟩
  · have hsize := (movable_of_isReferenceTo hdir hlast hone hbare h).two_le_size
    exact absurd hsize (by decide)
  · have hadmits := (movable_of_isReferenceTo hdir hlast htwo hdouble h).admits
    exact absurd (hadmits ' ' (by decide +kernel)) (by decide)

end MediaQuery.Css
