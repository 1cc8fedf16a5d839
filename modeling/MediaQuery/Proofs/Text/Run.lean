import MediaQuery.Text.Ascii
import MediaQuery.Text.Blank

/-!
# Runs of characters

A text begins with the longest run of characters of a class (`exists_run`), and a reader that takes
or drops characters of the class stops behind it (`takeWhile_run`, `dropWhile_run`).
-/

namespace MediaQuery

variable {cs run rest : List Char} {p : Char → Bool} {c : Char}

/-- A text does not begin with a character of a class. -/
def StopsAt (p : Char → Bool) (cs : List Char) : Prop := ∀ c, cs.head? = some c → p c = false

theorem stopsAt_nil : StopsAt p [] := by simp [StopsAt]

theorem stopsAt_cons (hc : p c = false) : StopsAt p (c :: cs) := by
  intro d hd
  rwa [← Option.some.inj hd]

theorem stopsAt_dropWhile (p : Char → Bool) (cs : List Char) : StopsAt p (cs.dropWhile p) := by
  intro c hc
  have := List.head?_dropWhile_not p cs
  rw [hc] at this
  simpa using this

theorem takeWhile_run (hrun : ∀ c ∈ run, p c = true) (hrest : StopsAt p rest) :
    (run ++ rest).takeWhile p = run := by
  rw [List.takeWhile_append_of_pos hrun]
  cases rest with
  | nil => exact List.append_nil run
  | cons c rest => rw [List.takeWhile_cons, hrest c rfl]; exact List.append_nil run

theorem dropWhile_run (hrun : ∀ c ∈ run, p c = true) (hrest : StopsAt p rest) :
    (run ++ rest).dropWhile p = rest := by
  rw [List.dropWhile_append_of_pos hrun]
  cases rest with
  | nil => rfl
  | cons c rest => rw [List.dropWhile_cons, hrest c rfl]; rfl

/-- A text begins with the longest run of characters of a class. -/
theorem exists_run (p : Char → Bool) (cs : List Char) :
    ∃ run rest, cs = run ++ rest ∧ (∀ c ∈ run, p c = true) ∧ StopsAt p rest :=
  ⟨cs.takeWhile p, cs.dropWhile p, List.takeWhile_append_dropWhile.symm,
    List.all_eq_true.mp List.all_takeWhile, stopsAt_dropWhile p cs⟩

/-- A text is made of a run and what stops it in one way only. -/
theorem run_append_inj {run' rest' : List Char} (hrun : ∀ c ∈ run, p c = true)
    (hrest : StopsAt p rest) (hrun' : ∀ c ∈ run', p c = true) (hrest' : StopsAt p rest')
    (h : run ++ rest = run' ++ rest') : run = run' ∧ rest = rest' := by
  have heq : run = run' := by
    rw [← takeWhile_run hrun hrest, h, takeWhile_run hrun' hrest']
  exact ⟨heq, List.append_cancel_left (heq ▸ h)⟩

/-- In particular there is one way to part it at the first place where a character stands. -/
theorem append_cons_inj_of_not_mem {run' rest' : List Char} (hrun : c ∉ run) (hrun' : c ∉ run')
    (h : run ++ c :: rest = run' ++ c :: rest') : run = run' ∧ rest = rest' := by
  have hne : ∀ {run : List Char}, c ∉ run → ∀ d ∈ run, (d != c) = true := fun hrun d hd =>
    bne_iff_ne.mpr (ne_of_mem_of_not_mem hd hrun)
  obtain ⟨heq, hcons⟩ := run_append_inj (hne hrun) (stopsAt_cons (by simp)) (hne hrun')
    (stopsAt_cons (by simp)) h
  exact ⟨heq, (List.cons.inj hcons).2⟩

/-- A text that is not of a class throughout begins with a run of the class and a character that
stops it. -/
theorem exists_stop (hmem : c ∈ cs) (hc : p c = false) :
    ∃ run d more, cs = run ++ d :: more ∧ (∀ e ∈ run, p e = true) ∧ p d = false ∧
      c ∈ d :: more := by
  obtain ⟨run, stop, rfl, hrun, hstop⟩ := exists_run p cs
  have hstop' : c ∈ stop := (List.mem_append.mp hmem).resolve_left fun h => by
    rw [hrun c h] at hc
    exact Bool.noConfusion hc
  cases stop with
  | nil => exact absurd hstop' List.not_mem_nil
  | cons d more => exact ⟨run, d, more, rfl, hrun, hstop d rfl, hstop'⟩

/-- What follows such a text has no say in where the run stops. -/
theorem takeWhile_append_of_mem (hmem : c ∈ cs) (hc : p c = false) (rest : List Char) :
    (cs ++ rest).takeWhile p = cs.takeWhile p := by
  obtain ⟨run, d, more, rfl, hrun, hd, -⟩ := exists_stop hmem hc
  rw [List.append_assoc, List.cons_append, takeWhile_run hrun (stopsAt_cons hd),
    takeWhile_run hrun (stopsAt_cons hd)]

theorem dropWhile_append_of_mem (hmem : c ∈ cs) (hc : p c = false) (rest : List Char) :
    (cs ++ rest).dropWhile p = cs.dropWhile p ++ rest := by
  obtain ⟨run, d, more, rfl, hrun, hd, -⟩ := exists_stop hmem hc
  rw [List.append_assoc, List.cons_append, dropWhile_run hrun (stopsAt_cons hd),
    dropWhile_run hrun (stopsAt_cons hd), List.cons_append]

theorem mem_dropWhile_of_mem (hmem : c ∈ cs) (hc : p c = false) : c ∈ cs.dropWhile p := by
  obtain ⟨run, d, more, rfl, hrun, hd, hmore⟩ := exists_stop hmem hc
  rwa [dropWhile_run hrun (stopsAt_cons hd)]

/-- Behind a character that is not trimmed only the end of a text is. -/
theorem trimEnd_cons (hc : p c = false) (cs : List Char) :
    ((c :: cs).reverse.dropWhile p).reverse = c :: (cs.reverse.dropWhile p).reverse := by
  rw [List.reverse_cons, List.dropWhile_append]
  split
  · next hempty =>
    have hnil : cs.reverse.dropWhile p = [] := List.isEmpty_iff.mp hempty
    rw [hnil, List.dropWhile_cons, if_neg (by simp [hc])]
    rfl
  · rw [List.reverse_append]
    rfl

/-! ## White space -/

theorem Ascii.isBlank_of_isSpace (h : Ascii.isSpace c = true) : Blank.isBlank c = true := by
  simp only [Ascii.isSpace, Bool.or_eq_true, beq_iff_eq] at h
  rcases h with (((rfl | rfl) | rfl) | rfl) | rfl <;> decide

/-- A text is ASCII white space throughout. -/
def IsSpace (cs : List Char) : Prop := ∀ c ∈ cs, Ascii.isSpace c = true

theorem skipSpace_run {space : List Char} (hspace : IsSpace space)
    (hrest : StopsAt Ascii.isSpace rest) : Ascii.skipSpace (space ++ rest) = rest :=
  dropWhile_run hspace hrest

theorem exists_space (cs : List Char) :
    ∃ space, cs = space ++ Ascii.skipSpace cs ∧ IsSpace space ∧
      StopsAt Ascii.isSpace (Ascii.skipSpace cs) := by
  obtain ⟨space, rest, rfl, hspace, hrest⟩ := exists_run Ascii.isSpace cs
  rw [skipSpace_run hspace hrest]
  exact ⟨space, rfl, hspace, hrest⟩

namespace Blank

theorem trimRight_cons (hc : isBlank c = false) (cs : List Char) :
    trimRight (c :: cs) = c :: trimRight cs := trimEnd_cons hc cs

/-- Only white space is trimmed from a text that does not end with any. -/
theorem trimRight_append {blank : List Char} (hend : ∀ c, cs.getLast? = some c → isBlank c = false)
    (hblank : allBlank blank = true) : trimRight (cs ++ blank) = cs := by
  have hstops : StopsAt isBlank cs.reverse := fun c hc => hend c (by rwa [← List.head?_reverse])
  have hrun : ∀ c ∈ blank.reverse, isBlank c = true := fun c hc =>
    List.all_eq_true.mp hblank c (List.mem_reverse.mp hc)
  rw [trimRight, List.reverse_append, dropWhile_run hrun hstops, List.reverse_reverse]

end Blank

end MediaQuery
