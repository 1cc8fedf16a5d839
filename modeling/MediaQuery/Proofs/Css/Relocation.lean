import MediaQuery.Css.Reference
import MediaQuery.Css.Shield
import MediaQuery.Proofs.Text.Run
import MediaQuery.Proofs.Text.Spelling

/-!
# Moving references one by one

A sheet is text with references in it. `Argument` says what may stand between `url(` and the closing
parenthesis of a reference, whether it carries the directory afterwards or stays as it is, and that
it does so depends on nothing around it: behind a closing parenthesis the search begins anew
(`prepend_append_paren`).

* `references_are_moved_one_by_one` — the law for a sheet with any number of references
-/

namespace MediaQuery.Css

variable {dir arg path cs rest run tail : List Char} {c : Char}

/-! ## Where a reference begins -/

/-- What a reference begins with. -/
def opener : List Char := ['u', 'r', 'l', '(']

/-- A text does not end within the beginning of a reference if what follows does not go on with it:
no two references begin at places that overlap, and none begins across a closing parenthesis. -/
theorem not_opener_prefix_append (hne : cs ≠ []) (h : ¬ opener <+: cs) (hc : c ∉ opener.tail)
    (rest : List Char) : ¬ opener <+: cs ++ c :: rest := by
  simp only [opener, List.tail_cons, List.mem_cons, List.not_mem_nil, or_false, not_or] at hc h ⊢
  match cs, hne with
  | [_], _ => simp [Ne.symm hc.1]
  | [_, _], _ => simp [Ne.symm hc.2.1]
  | [_, _, _], _ => simp [Ne.symm hc.2.2]
  | _ :: _ :: _ :: _ :: cs, _ => simpa using h

/-- A closing parenthesis completes none either. -/
theorem not_opener_infix_paren (h : ¬ opener <:+: cs) : ¬ opener <:+: cs ++ [')'] := by
  rw [List.infix_concat_iff]
  rintro (hsuffix | hinfix)
  · obtain ⟨before, heq⟩ := hsuffix
    have hlast := congrArg List.getLast? heq
    simp [opener] at hlast
  · exact h hinfix

theorem prepend_of_relative (h : relative? arg = some (path, rest)) :
    prepend dir (opener ++ arg) = opener ++ (dir ++ (path ++ ')' :: prepend dir rest)) := by
  change prepend dir ('u' :: 'r' :: 'l' :: '(' :: arg) = _
  rw [prepend]
  split
  · next heq =>
    obtain ⟨rfl, rfl⟩ := Prod.mk.inj (Option.some.inj (h.symm.trans heq))
    simp [opener]
  · next heq => exact absurd (h.symm.trans heq) (by simp)

theorem prepend_of_not_relative (h : relative? arg = none) :
    prepend dir (opener ++ arg) = opener ++ prepend dir arg := by
  change prepend dir ('u' :: 'r' :: 'l' :: '(' :: arg) = _
  rw [prepend]
  split
  · next heq => exact absurd (h.symm.trans heq) (by simp)
  · rfl

theorem prepend_cons (h : ¬ opener <+: c :: cs) : prepend dir (c :: cs) = c :: prepend dir cs := by
  rw [prepend]
  rintro arg rfl rfl
  exact h ⟨arg, rfl⟩

/-- Text without a reference is passed on up to the next one. -/
theorem prepend_append_opener (h : ¬ opener <:+: cs) (rest : List Char) :
    prepend dir (cs ++ (opener ++ rest)) = cs ++ prepend dir (opener ++ rest) := by
  induction cs with
  | nil => rfl
  | cons c cs ih =>
    rw [List.infix_cons_iff, not_or] at h
    have hnow : ¬ opener <+: c :: (cs ++ (opener ++ rest)) :=
      not_opener_prefix_append (List.cons_ne_nil c cs) h.1 (by decide) _
    rw [List.cons_append, prepend_cons hnow, ih h.2, List.cons_append]

theorem prepend_of_not_infix (h : ¬ opener <:+: cs) : prepend dir cs = cs := by
  induction cs with
  | nil => rw [prepend]
  | cons c cs ih =>
    rw [List.infix_cons_iff, not_or] at h
    rw [prepend_cons h.1, ih h.2]

/-! ## Where a reference ends -/

theorem dropQuote_append (h : ')' ∈ cs) (rest : List Char) :
    dropQuote (cs ++ rest) = dropQuote cs ++ rest ∧ ')' ∈ dropQuote cs := by
  cases cs with
  | nil => exact absurd h List.not_mem_nil
  | cons c cs =>
    by_cases hdouble : c = '"'
    · subst hdouble
      exact ⟨rfl, (List.mem_cons.mp h).resolve_left (by decide)⟩
    by_cases hsingle : c = '\''
    · subst hsingle
      exact ⟨rfl, (List.mem_cons.mp h).resolve_left (by decide)⟩
    · have hkeep : ∀ cs, dropQuote (c :: cs) = c :: cs := fun cs => by
        unfold dropQuote
        split
        · next heq => exact absurd (List.cons.inj heq).1 hdouble
        · next heq => exact absurd (List.cons.inj heq).1 hsingle
        · rfl
      rw [List.cons_append, hkeep, hkeep]
      exact ⟨rfl, h⟩

/-- A relative reference is complete at the first closing parenthesis. -/
theorem relative?_append (h : ')' ∈ arg) (rest : List Char) :
    relative? (arg ++ rest) = (relative? arg).map fun (path, behind) => (path, behind ++ rest) := by
  have hspace : Ascii.isSpace ')' = false := by decide
  have hends : (!endsPath ')') = false := by decide
  have h₁ := mem_dropWhile_of_mem h hspace
  obtain ⟨heq₂, h₂⟩ := dropQuote_append h₁ rest
  have h₃ := mem_dropWhile_of_mem (p := fun c => !endsPath c) h₂ hends
  obtain ⟨heq₄, h₄⟩ := dropQuote_append h₃ rest
  have h₅ := mem_dropWhile_of_mem h₄ hspace
  unfold relative? Ascii.skipSpace
  dsimp only
  rw [dropWhile_append_of_mem h hspace, heq₂, takeWhile_append_of_mem h₂ hends,
    dropWhile_append_of_mem h₂ hends, heq₄, dropWhile_append_of_mem h₄ hspace]
  split
  · obtain ⟨c, more, hmore⟩ := List.exists_cons_of_ne_nil (List.ne_nil_of_mem h₅)
    rw [hmore, List.cons_append]
    by_cases hc : c = ')'
    · subst hc
      rfl
    · simp [hc]
  · rfl

theorem dropQuote_suffix (cs : List Char) : dropQuote cs <:+ cs := by
  unfold dropQuote
  split <;> simp

/-- The closing parenthesis of a relative reference and what is behind it end the text. -/
theorem suffix_of_relative? (h : relative? arg = some (path, rest)) : ')' :: rest <:+ arg := by
  unfold relative? at h
  dsimp only at h
  split at h
  · split at h
    · next heq =>
      obtain ⟨-, rfl⟩ := Prod.mk.inj (Option.some.inj h)
      rw [← heq]
      have hpath := (List.dropWhile_suffix (fun c => !endsPath c)).trans
        ((dropQuote_suffix (Ascii.skipSpace arg)).trans (List.dropWhile_suffix _))
      exact (List.dropWhile_suffix _).trans ((dropQuote_suffix _).trans hpath)
    · exact absurd h (by simp)
  · exact absurd h (by simp)

theorem eq_nil_or_exists_of_suffix (h : ')' :: rest <:+ cs ++ [')']) :
    rest = [] ∨ ∃ more, rest = more ++ [')'] ∧ more.length < cs.length := by
  rcases List.suffix_concat_iff.mp h with hnil | ⟨_ | ⟨d, more⟩, heq, hmore⟩
  · exact absurd hnil (by simp)
  · exact Or.inl (List.cons.inj heq).2
  · exact Or.inr ⟨more, (List.cons.inj heq).2, hmore.length_le⟩

/-- Behind a closing parenthesis the search begins anew. -/
theorem prepend_append_paren (dir cs rest : List Char) :
    prepend dir (cs ++ ')' :: rest) = prepend dir (cs ++ [')']) ++ prepend dir rest := by
  -- on the length, because behind a moved reference the search goes on with a shorter text
  induction hn : cs.length using Nat.strongRecOn generalizing cs with
  | ind n ih =>
    subst hn
    by_cases hopen : opener <+: cs
    · obtain ⟨arg, rfl⟩ := hopen
      have hshorter : arg.length < (opener ++ arg).length := by simp [opener]; omega
      have hmem : ')' ∈ arg ++ [')'] := by simp
      have happend := relative?_append hmem rest
      rw [List.append_assoc, List.singleton_append] at happend
      rw [List.append_assoc, List.append_assoc]
      cases hrel : relative? (arg ++ [')']) with
      | none =>
        rw [hrel] at happend
        rw [prepend_of_not_relative happend, prepend_of_not_relative hrel,
          ih arg.length hshorter arg rfl, List.append_assoc]
      | some found =>
        obtain ⟨path, behind⟩ := found
        rw [hrel] at happend
        have hbehind : prepend dir (behind ++ rest) = prepend dir behind ++ prepend dir rest := by
          -- the reference may have ended with the parenthesis at hand or with an earlier one
          rcases eq_nil_or_exists_of_suffix (suffix_of_relative? hrel) with rfl | ⟨more, rfl, hmore⟩
          · rw [prepend, List.nil_append, List.nil_append]
          · rw [List.append_assoc, List.singleton_append]
            exact ih more.length (Nat.lt_trans hmore hshorter) more rfl
        rw [prepend_of_relative happend, prepend_of_relative hrel, hbehind]
        simp
    · cases cs with
      | nil =>
        have hparen : ∀ cs, ¬ opener <+: ')' :: cs := by simp [opener]
        rw [List.nil_append, List.nil_append, prepend_cons (hparen _), prepend_cons (hparen _),
          prepend]
        rfl
      | cons c cs =>
        have hnow : ∀ rest, ¬ opener <+: c :: (cs ++ ')' :: rest) :=
          not_opener_prefix_append (List.cons_ne_nil c cs) hopen (by decide)
        rw [List.cons_append, List.cons_append, prepend_cons (hnow rest), prepend_cons (hnow []),
          ih cs.length (by simp) cs rfl, List.cons_append]

/-! ## What a reference is read as -/

theorem not_isSpace_of_isQuote (h : Shield.isQuote c = true) : Ascii.isSpace c = false := by
  simp only [Shield.isQuote, Bool.or_eq_true, beq_iff_eq] at h
  rcases h with rfl | rfl <;> decide

theorem endsPath_of_isQuote (h : Shield.isQuote c = true) : endsPath c = true := by
  simp only [Shield.isQuote, Bool.or_eq_true, beq_iff_eq] at h
  rcases h with rfl | rfl <;> decide

theorem endsPath_eq_false_iff :
    endsPath c = false ↔ c ≠ ':' ∧ c ≠ ')' ∧ Shield.isQuote c = false := by
  simp [endsPath, Shield.isQuote, and_assoc]

theorem endsPath_of_isBlank (h : Blank.isBlank c = true) : endsPath c = false := by
  rw [Bool.eq_false_iff]
  intro hends
  simp only [endsPath, Bool.or_eq_true, beq_iff_eq] at hends
  rcases hends with ((rfl | rfl) | rfl) | rfl <;> exact absurd h (by decide)

theorem dropQuote_of_isQuote (h : Shield.isQuote c = true) (cs : List Char) :
    dropQuote (c :: cs) = cs := by
  simp only [Shield.isQuote, Bool.or_eq_true, beq_iff_eq] at h
  rcases h with rfl | rfl <;> rfl

theorem dropQuote_of_stopsAt (h : StopsAt Shield.isQuote cs) : dropQuote cs = cs := by
  unfold dropQuote
  split
  · exact absurd (h _ rfl) (by decide)
  · exact absurd (h _ rfl) (by decide)
  · rfl

/-- A quote of either kind, or none. -/
def IsQuoteOrNone (quote : Option Char) : Prop := ∀ c ∈ quote, Shield.isQuote c = true

/-- White space and a quote in front of a path are passed over, and no more than that. -/
theorem dropQuote_skipSpace {before : List Char} {opening : Option Char} (inner : List Char)
    (hbefore : IsSpace before) (hopening : IsQuoteOrNone opening)
    (hinner : opening = none → StopsAt Ascii.isSpace inner ∧ StopsAt Shield.isQuote inner) :
    dropQuote (Ascii.skipSpace (before ++ (opening.toList ++ inner))) = inner := by
  cases opening with
  | some quote =>
    have hquote := hopening quote rfl
    have hstops : StopsAt Ascii.isSpace (quote :: inner) :=
      stopsAt_cons (not_isSpace_of_isQuote hquote)
    rw [Option.toList_some, List.singleton_append, skipSpace_run hbefore hstops,
      dropQuote_of_isQuote hquote]
  | none =>
    obtain ⟨hspace, hquote⟩ := hinner rfl
    rw [Option.toList_none, List.nil_append, skipSpace_run hbefore hspace,
      dropQuote_of_stopsAt hquote]

/-- A reference is read as the path up to the first character that ends it. -/
theorem relative?_eq (hinner : dropQuote (Ascii.skipSpace arg) = run ++ tail)
    (hrun : ∀ c ∈ run, endsPath c = false) (htail : StopsAt (fun c => !endsPath c) tail) :
    relative? arg =
      if isRelativePath (Blank.trimRight run) then
        match Ascii.skipSpace (dropQuote tail) with
        | ')' :: rest => some (Blank.trimRight run, rest)
        | _ => none
      else none := by
  have hrun' : ∀ c ∈ run, (!endsPath c) = true := fun c hc => by simp [hrun c hc]
  show (if isRelativePath (Blank.trimRight
      ((dropQuote (Ascii.skipSpace arg)).takeWhile fun c => !endsPath c)) then
    match Ascii.skipSpace (dropQuote
        ((dropQuote (Ascii.skipSpace arg)).dropWhile fun c => !endsPath c)) with
    | ')' :: rest => some (Blank.trimRight
        ((dropQuote (Ascii.skipSpace arg)).takeWhile fun c => !endsPath c), rest)
    | _ => none
    else none) = _
  rw [hinner, takeWhile_run hrun' htail, dropWhile_run hrun' htail]

/-- The path of a reference that is no path is empty. -/
theorem relative?_of_empty (hinner : dropQuote (Ascii.skipSpace arg) = ')' :: rest) :
    relative? arg = none := by
  have hnil : dropQuote (Ascii.skipSpace arg) = [] ++ ')' :: rest := hinner
  rw [relative?_eq hnil (by simp) (stopsAt_cons (by decide))]
  rfl

theorem relative?_of_rooted (hinner : dropQuote (Ascii.skipSpace arg) = c :: rest)
    (hc : c = '/' ∨ c = '#') : relative? arg = none := by
  have hends : (!endsPath c) = true := by rcases hc with rfl | rfl <;> decide
  have hblank : Blank.isBlank c = false := by rcases hc with rfl | rfl <;> decide
  have hpath : ∀ cs, isRelativePath (c :: cs) = false := by
    rcases hc with rfl | rfl <;> simp [isRelativePath]
  unfold relative?
  dsimp only
  rw [hinner, List.takeWhile_cons, if_pos hends, Blank.trimRight_cons hblank, hpath]
  exact if_neg Bool.false_ne_true

theorem relative?_of_colon {front : List Char}
    (hinner : dropQuote (Ascii.skipSpace arg) = front ++ ':' :: rest)
    (hfront : ∀ c ∈ front, endsPath c = false) : relative? arg = none := by
  rw [relative?_eq hinner hfront (stopsAt_cons (by decide))]
  split <;> rfl

/-! ## What is moved and what stays -/

/-- A reference to a place in the directory of the sheet, as it stands between `url(` and the
closing parenthesis. -/
structure Relative where
  before : List Char
  opening : Option Char
  path : List Char
  between : List Char
  closing : Option Char
  behind : List Char
  isSpace_before : IsSpace before
  isQuote_opening : IsQuoteOrNone opening
  two_le_size : 2 ≤ Size.utf8 path
  plain : ∀ c ∈ path, c ≠ ':' ∧ c ≠ ')' ∧ Shield.isQuote c = false
  begins : ∀ c, path.head? = some c → c ≠ '/' ∧ c ≠ '#'
  /-- White space in front of a path belongs to it only behind a quote. -/
  begins_bare : opening = none → StopsAt Ascii.isSpace path
  ends : ∀ c, path.getLast? = some c → Blank.isBlank c = false
  allBlank_between : Blank.allBlank between = true
  isQuote_closing : IsQuoteOrNone closing
  isSpace_behind : IsSpace behind

/-- What makes a reference stay as it is: that there is nothing to move, that it begins with a slash
or a number sign, or that a colon comes before quotes and parentheses. -/
inductive IsKept : List Char → Prop where
  | empty : IsKept []
  | rooted {c : Char} (hc : c = '/' ∨ c = '#') (cs : List Char) : IsKept (c :: cs)
  | colon {front : List Char}
    (hfront : ∀ c ∈ front, c ≠ ':' ∧ c ≠ ')' ∧ Shield.isQuote c = false) (cs : List Char) :
    IsKept (front ++ ':' :: cs)

/-- A reference that stays as it is, as it stands between `url(` and the closing parenthesis. -/
structure Kept where
  before : List Char
  opening : Option Char
  inner : List Char
  isSpace_before : IsSpace before
  isQuote_opening : IsQuoteOrNone opening
  isKept : IsKept inner

/-- A relative reference as it is written. -/
def Relative.text (r : Relative) : List Char :=
  r.before ++ (r.opening.toList ++ (r.path ++ (r.between ++ (r.closing.toList ++ r.behind))))

/-- A reference that stays as it is, as it is written. -/
def Kept.text (k : Kept) : List Char := k.before ++ (k.opening.toList ++ k.inner)

namespace Relative

variable (r : Relative)

theorem exists_path_eq_cons : ∃ c cs, r.path = c :: cs := by
  refine List.exists_cons_of_ne_nil fun hnil => ?_
  have hsize := r.two_le_size
  rw [hnil] at hsize
  exact absurd hsize (by decide)

theorem isRelativePath_path : isRelativePath r.path = true := by
  obtain ⟨c, cs, hpath⟩ := r.exists_path_eq_cons
  obtain ⟨hslash, hsign⟩ := r.begins c (by rw [hpath]; rfl)
  have hsize := r.two_le_size
  rw [hpath] at hsize ⊢
  simp only [isRelativePath, Bool.and_eq_true, bne_iff_ne, decide_eq_true_eq]
  exact ⟨⟨hslash, hsign⟩, hsize⟩

/-- White space and the quote in front of the path are passed over. -/
theorem dropQuote_skipSpace_text (rest : List Char) :
    dropQuote (Ascii.skipSpace (r.text ++ rest)) =
      r.path ++ (r.between ++ (r.closing.toList ++ (r.behind ++ rest))) := by
  obtain ⟨c, cs, hpath⟩ := r.exists_path_eq_cons
  have hskip := dropQuote_skipSpace (r.path ++ (r.between ++ (r.closing.toList ++
    (r.behind ++ rest)))) r.isSpace_before r.isQuote_opening (fun hnone => by
      rw [hpath]
      exact ⟨stopsAt_cons (r.begins_bare hnone c (by rw [hpath]; rfl)),
        stopsAt_cons (r.plain c (by simp [hpath])).2.2⟩)
  simpa [text] using hskip

/-- White space follows the path, and then what ends it and lets the parenthesis be found: the
quote, or the parenthesis itself. -/
theorem exists_blank_tail (rest : List Char) : ∃ blank tail,
    r.between ++ (r.closing.toList ++ (r.behind ++ ')' :: rest)) = blank ++ tail ∧
      Blank.allBlank blank = true ∧ StopsAt (fun c => !endsPath c) tail ∧
      Ascii.skipSpace (dropQuote tail) = ')' :: rest := by
  cases hclosing : r.closing with
  | some quote =>
    have hquote := r.isQuote_closing quote hclosing
    refine ⟨r.between, quote :: (r.behind ++ ')' :: rest), rfl, r.allBlank_between, ?_, ?_⟩
    · exact stopsAt_cons (by simp [endsPath_of_isQuote hquote])
    · rw [dropQuote_of_isQuote hquote]
      exact skipSpace_run r.isSpace_behind (stopsAt_cons (by decide))
  | none =>
    refine ⟨r.between ++ r.behind, ')' :: rest, by simp, ?_, stopsAt_cons (by decide), rfl⟩
    rw [Blank.allBlank, List.all_append, Bool.and_eq_true]
    exact ⟨r.allBlank_between, List.all_eq_true.mpr fun c hc =>
      Ascii.isBlank_of_isSpace (r.isSpace_behind c hc)⟩

/-- A relative reference is read as its path, and what is behind the parenthesis is left. -/
theorem relative?_text (rest : List Char) :
    relative? (r.text ++ ')' :: rest) = some (r.path, rest) := by
  obtain ⟨blank, tail, heq, hblank, htail, hskip⟩ := r.exists_blank_tail rest
  have hinner : dropQuote (Ascii.skipSpace (r.text ++ ')' :: rest)) =
      (r.path ++ blank) ++ tail := by
    rw [dropQuote_skipSpace_text, heq, List.append_assoc]
  have hrun : ∀ c ∈ r.path ++ blank, endsPath c = false := by
    refine List.forall_mem_append.mpr ⟨fun c hc => endsPath_eq_false_iff.mpr (r.plain c hc), ?_⟩
    exact fun c hc => endsPath_of_isBlank (List.all_eq_true.mp hblank c hc)
  rw [relative?_eq hinner hrun htail, Blank.trimRight_append r.ends hblank,
    if_pos r.isRelativePath_path, hskip]
  rfl

end Relative

/-- A reference that stays as it is is not read as a path. -/
theorem Kept.relative?_text (k : Kept) (rest : List Char) :
    relative? (k.text ++ ')' :: rest) = none := by
  obtain ⟨before, opening, inner, hbefore, hopening, hkept⟩ := k
  have htext : Kept.text ⟨before, opening, inner, hbefore, hopening, hkept⟩ ++ ')' :: rest =
      before ++ (opening.toList ++ (inner ++ ')' :: rest)) := by
    simp [Kept.text]
  rw [htext]
  cases hkept with
  | empty =>
    refine relative?_of_empty (dropQuote_skipSpace (')' :: rest) hbefore hopening fun _ => ?_)
    exact ⟨stopsAt_cons (by decide), stopsAt_cons (by decide)⟩
  | @rooted c hc cs =>
    refine relative?_of_rooted (dropQuote_skipSpace _ hbefore hopening fun _ => ?_) hc
    rcases hc with rfl | rfl <;> exact ⟨stopsAt_cons (by decide), stopsAt_cons (by decide)⟩
  | @colon front hfront cs =>
    have hends : ∀ c ∈ front, endsPath c = false := fun c hc =>
      endsPath_eq_false_iff.mpr (hfront c hc)
    rw [List.append_assoc, List.cons_append]
    cases opening with
    | some quote =>
      exact relative?_of_colon (dropQuote_skipSpace _ hbefore hopening (by simp)) hends
    | none =>
      -- without a quote the white space that the text begins with is passed over too
      obtain ⟨space, front, rfl, hspace, hstops⟩ := exists_run Ascii.isSpace front
      rw [List.forall_mem_append] at hends hfront
      have hbefore' : IsSpace (before ++ space) := List.forall_mem_append.mpr ⟨hbefore, hspace⟩
      have hskip := dropQuote_skipSpace (front ++ ':' :: (cs ++ ')' :: rest)) hbefore'
        hopening fun _ => by
          cases front with
          | nil => exact ⟨stopsAt_cons (by decide), stopsAt_cons (by decide)⟩
          | cons c front =>
            exact ⟨stopsAt_cons (hstops c rfl), stopsAt_cons (hfront.2 c (by simp)).2.2⟩
      exact relative?_of_colon (by simpa using hskip) hends.2

/-- What stands between `url(` and the closing parenthesis of a reference. -/
inductive Argument where
  | relative (r : Relative)
  | kept (k : Kept)

namespace Argument

/-- An argument as it is written. -/
def text : Argument → List Char
  | relative r => r.text
  | kept k => k.text

/-- An argument once the sheet has been moved: a path carries the directory, without white space and
quotes around it, and what stays is what it was. -/
def moved (dir : List Char) : Argument → List Char
  | relative r => dir ++ r.path
  | kept k => k.text

/-- A reference whose argument no other reference begins in is moved as a whole. -/
theorem prepend_text (a : Argument) (h : ¬ opener <:+: a.text) :
    prepend dir (opener ++ (a.text ++ [')'])) = opener ++ (a.moved dir ++ [')']) := by
  cases a with
  | relative r =>
    rw [text, prepend_of_relative (r.relative?_text []), prepend]
    simp [moved]
  | kept k =>
    have hkept : ¬ opener <:+: k.text := h
    rw [text, prepend_of_not_relative (k.relative?_text []),
      prepend_of_not_infix (not_opener_infix_paren hkept), moved]

end Argument

/-- A reference, with the text behind it up to the next one. No other reference begins in either. -/
structure Passage where
  argument : Argument
  behind : List Char
  not_infix_argument : ¬ opener <:+: argument.text
  not_infix_behind : ¬ opener <:+: behind

namespace Passage

/-- A passage as it is written. -/
def text (p : Passage) : List Char := opener ++ (p.argument.text ++ ')' :: p.behind)

/-- A passage once the sheet has been moved. -/
def moved (dir : List Char) (p : Passage) : List Char :=
  opener ++ (p.argument.moved dir ++ ')' :: p.behind)

end Passage

theorem prepend_passages {front : List Char} (hfront : ¬ opener <:+: front) (ps : List Passage) :
    prepend dir (front ++ ps.flatMap Passage.text) = front ++ ps.flatMap (Passage.moved dir) := by
  induction ps generalizing front with
  | nil =>
    rw [List.flatMap_nil, List.flatMap_nil, List.append_nil]
    exact prepend_of_not_infix hfront
  | cons p ps ih =>
    have hparen : opener ++ (p.argument.text ++ ')' :: p.behind) ++ ps.flatMap Passage.text =
        (opener ++ p.argument.text) ++ ')' :: (p.behind ++ ps.flatMap Passage.text) := by simp
    calc prepend dir (front ++ (p :: ps).flatMap Passage.text)
      _ = front ++ prepend dir (opener ++ (p.argument.text ++ ')' :: p.behind) ++
            ps.flatMap Passage.text) := by
        rw [List.flatMap_cons, Passage.text, List.append_assoc opener,
          prepend_append_opener hfront]
      _ = front ++ (prepend dir (opener ++ (p.argument.text ++ [')'])) ++
            prepend dir (p.behind ++ ps.flatMap Passage.text)) := by
        rw [hparen, prepend_append_paren, List.append_assoc opener]
      _ = front ++ (opener ++ (p.argument.moved dir ++ [')']) ++
            (p.behind ++ ps.flatMap (Passage.moved dir))) := by
        rw [p.argument.prepend_text p.not_infix_argument, ih p.not_infix_behind]
      _ = front ++ (p :: ps).flatMap (Passage.moved dir) := by
        simp [Passage.moved]

/-- In a sheet that is moved, every relative reference is replaced by its path behind the directory,
and every other reference and all text around the references is kept. -/
theorem references_are_moved_one_by_one {dir front : List Char} (ps : List Passage)
    (hdir : dir ≠ []) (hfront : ¬ opener <:+: front) :
    relocate (front ++ ps.flatMap Passage.text) dir =
      front ++ ps.flatMap (Passage.moved dir) := by
  rw [relocate, if_neg (by simpa using hdir)]
  exact prepend_passages hfront ps

/-- A path between two quotes that are not alike, with white space of both kinds around it. -/
def spacedPath : Relative where
  before := [' ']
  opening := some '"'
  path := "b (c".toList
  between := ['\xa0']
  closing := some '\''
  behind := ['\n']
  isSpace_before := forall_mem_of_all (by decide)
  isQuote_opening := by simp [IsQuoteOrNone, Shield.isQuote]
  two_le_size := by decide +kernel
  plain := forall_mem_of_all (by decide +kernel)
  begins := by simp
  begins_bare := by simp
  ends := by simp [Blank.isBlank]
  allBlank_between := by decide
  isQuote_closing := by simp [IsQuoteOrNone, Shield.isQuote]
  isSpace_behind := forall_mem_of_all (by decide)

/-- A reference into the page, behind a quote that is not closed. -/
def quotedFragment : Kept where
  before := []
  opening := some '\''
  inner := "#url)".toList
  isSpace_before := by simp [IsSpace]
  isQuote_opening := by simp [IsQuoteOrNone, Shield.isQuote]
  isKept := .rooted (Or.inr rfl) "url)".toList

theorem mixed_references_are_moved :
    let ps : List Passage :=
      [⟨.relative spacedPath, "url".toList, by decide +kernel, by decide +kernel⟩,
        ⟨.kept quotedFragment, "(b)".toList, by decide +kernel, by decide +kernel⟩]
    String.ofList ("a:".toList ++ ps.flatMap Passage.text) =
        "a:url( \"b (c\u00a0'\n)urlurl('#url))(b)" ∧
      "url(".toList ≠ [] ∧ ¬ opener <:+: "a:".toList ∧
      relocate ("a:".toList ++ ps.flatMap Passage.text) "url(".toList =
        "a:url(url(b (c)urlurl('#url))(b)".toList := by
  intro ps
  have hdir : "url(".toList ≠ [] := by decide +kernel
  have hfront : ¬ opener <:+: "a:".toList := by decide +kernel
  have hmoved : "a:".toList ++ ps.flatMap (Passage.moved "url(".toList) =
      "a:url(url(b (c)urlurl('#url))(b)".toList := by decide +kernel
  exact ⟨by decide +kernel, hdir, hfront,
    (references_are_moved_one_by_one ps hdir hfront).trans hmoved⟩

end MediaQuery.Css
