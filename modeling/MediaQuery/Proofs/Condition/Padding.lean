import MediaQuery.Condition.Read
import MediaQuery.Proofs.Text.Spelling
import Mathlib.Data.List.Forall2

/-!
# White space around media query lists

White space at the ends of a media query list does not count: none of what is read from a list takes
any notice of it, and at the ends of the first and the last entry it does not make a blank entry out
of one that is not.

* `Condition.readList_padded` — the law for lists
-/

namespace MediaQuery

open Blank (isBlank allBlank)

variable {cs ws word : List Char} {c : Char}

/-! ## White space among the characters -/

theorem isNumeral_iff (c : Char) :
    isNumeral c = true ↔ c.toNat = 46 ∨ 48 ≤ c.toNat ∧ c.toNat ≤ 57 := by
  have hdigit : c.isDigit = true ↔ 48 ≤ c.toNat ∧ c.toNat ≤ 57 := by
    change (decide (c.val ≥ '0'.val) && decide (c.val ≤ '9'.val)) = true ↔ _
    rw [Bool.and_eq_true, decide_eq_true_iff, decide_eq_true_iff, ge_iff_le,
      UInt32.le_iff_toNat_le, UInt32.le_iff_toNat_le]
    rfl
  have hpoint : c = '.' ↔ c.toNat = 46 := Char.toNat_inj.symm
  rw [isNumeral, Bool.or_eq_true, beq_iff_eq, hdigit, hpoint, or_comm]

namespace Blank

theorem ne_of_isBlank {d : Char} (hc : isBlank c = true) (hd : isBlank d = false) : c ≠ d := by
  rintro rfl
  exact absurd hc (by simp [hd])

theorem isAlpha_of_isBlank (hc : isBlank c = true) : c.isAlpha = false := by
  rw [Bool.eq_false_iff]
  intro halpha
  have hletter : c.isUpper = true ∨ c.isLower = true := (Bool.or_eq_true _ _).mp halpha
  rw [Ascii.isUpper_iff, Ascii.isLower_iff] at hletter
  simp only [isBlank, Bool.or_eq_true, Bool.and_eq_true, decide_eq_true_eq, beq_iff_eq] at hc
  omega

theorem isNumeral_of_isBlank (hc : isBlank c = true) : isNumeral c = false := by
  rw [Bool.eq_false_iff]
  intro hnumeral
  rw [isNumeral_iff] at hnumeral
  simp only [isBlank, Bool.or_eq_true, Bool.and_eq_true, decide_eq_true_eq, beq_iff_eq] at hc
  omega

@[simp] theorem allBlank_cons (c : Char) (cs : List Char) :
    allBlank (c :: cs) = (isBlank c && allBlank cs) := rfl

@[simp] theorem allBlank_append (a b : List Char) :
    allBlank (a ++ b) = (allBlank a && allBlank b) := List.all_append

end Blank

/-! ## White space at the beginning -/

theorem findBound_cons_of_ne (feature cs : List Char) (hc : c ≠ '(') :
    findBound feature (c :: cs) = findBound feature cs := by
  rw [findBound, if_neg (by simpa using hc)]

theorem findBound_blank_append {feature : List Char} (hws : allBlank ws = true) :
    findBound feature (ws ++ cs) = findBound feature cs := by
  induction ws with
  | nil => rfl
  | cons c ws ih =>
    rw [Blank.allBlank_cons, Bool.and_eq_true] at hws
    exact (findBound_cons_of_ne _ _ (Blank.ne_of_isBlank hws.1 (by decide))).trans (ih hws.2)

theorem letterRuns_cons_of_not_isAlpha (cs : List Char) (hc : c.isAlpha = false) :
    letterRuns (c :: cs) = letterRuns cs := by
  rw [letterRuns.eq_def]
  simp [hc]

theorem letterRuns_blank_append (hws : allBlank ws = true) :
    letterRuns (ws ++ cs) = letterRuns cs := by
  induction ws with
  | nil => rfl
  | cons c ws ih =>
    rw [Blank.allBlank_cons, Bool.and_eq_true] at hws
    rw [List.cons_append, letterRuns_cons_of_not_isAlpha _ (Blank.isAlpha_of_isBlank hws.1),
      ih hws.2]

theorem mediaTypeOf_blank_append (hws : allBlank ws = true) :
    mediaTypeOf (ws ++ cs) = mediaTypeOf cs := by
  have htake : (ws ++ cs).takeWhile (· != '(') = ws ++ cs.takeWhile (· != '(') := by
    refine List.takeWhile_append_of_pos fun c hc => ?_
    have hblank : isBlank c = true := List.all_eq_true.mp hws c hc
    simpa using Blank.ne_of_isBlank hblank (show isBlank '(' = false by decide)
  rw [mediaTypeOf, mediaTypeOf, htake, letterRuns_blank_append hws]

/-! ## White space at the end -/

/-- Characters of a kind that white space is not of are taken as if there were none behind them. -/
theorem takeWhile_append_blank {p : Char → Bool} (hp : ∀ c, isBlank c = true → p c = false)
    (hws : allBlank ws = true) : (cs ++ ws).takeWhile p = cs.takeWhile p := by
  induction cs with
  | nil =>
    cases ws with
    | nil => rfl
    | cons c ws =>
      rw [Blank.allBlank_cons, Bool.and_eq_true] at hws
      rw [List.nil_append, List.takeWhile_cons, if_neg (by simp [hp c hws.1]), List.takeWhile_nil]
  | cons c cs ih => rw [List.cons_append, List.takeWhile_cons, List.takeWhile_cons, ih]

theorem dropWhile_append_blank {p : Char → Bool} (hp : ∀ c, isBlank c = true → p c = false)
    (hws : allBlank ws = true) : (cs ++ ws).dropWhile p = cs.dropWhile p ++ ws := by
  induction cs with
  | nil =>
    cases ws with
    | nil => rfl
    | cons c ws =>
      rw [Blank.allBlank_cons, Bool.and_eq_true] at hws
      rw [List.nil_append, List.dropWhile_cons, if_neg (by simp [hp c hws.1]), List.dropWhile_nil,
        List.nil_append]
  | cons c cs ih =>
    rw [List.cons_append, List.dropWhile_cons, List.dropWhile_cons, ih]
    split <;> rfl

theorem Ascii.dropWord?_append_blank (hword : ∀ w ∈ word, isBlank w.toLower = false)
    (hws : allBlank ws = true) : dropWord? word (cs ++ ws) = (dropWord? word cs).map (· ++ ws) := by
  induction word generalizing cs with
  | nil => rfl
  | cons w word ih =>
    have hw := hword w (by simp)
    cases cs with
    | nil =>
      cases ws with
      | nil => rfl
      | cons c ws =>
        rw [Blank.allBlank_cons, Bool.and_eq_true] at hws
        have hne : w.toLower ≠ c.toLower := by
          rw [toLower_of_isBlank hws.1]
          exact (Blank.ne_of_isBlank hws.1 hw).symm
        simp [dropWord?, hne]
    | cons c cs =>
      rw [List.cons_append, dropWord?, dropWord?]
      split
      · exact ih fun v hv => hword v (List.mem_cons_of_mem _ hv)
      · rfl

/-- What white space is left behind skipped white space is white space. -/
theorem Ascii.exists_skipSpace_append (cs : List Char) (hws : allBlank ws = true) :
    ∃ ws', allBlank ws' = true ∧ skipSpace (cs ++ ws) = skipSpace cs ++ ws' := by
  induction cs with
  | nil =>
    refine ⟨skipSpace ws, ?_, rfl⟩
    rw [allBlank, List.all_eq_true] at hws ⊢
    exact fun c hc => hws c ((List.dropWhile_sublist _).subset hc)
  | cons c cs ih =>
    obtain ⟨ws', hws', heq⟩ := ih
    by_cases hc : isSpace c = true
    · exact ⟨ws', hws', by simpa [skipSpace, hc] using heq⟩
    · exact ⟨ws, hws, by simp [skipSpace, hc]⟩

theorem exists_dropSpaced?_append (cs : List Char) (hword : ∀ w ∈ word, isBlank w.toLower = false)
    (hws : allBlank ws = true) :
    ∃ ws', allBlank ws' = true ∧
      dropSpaced? word (cs ++ ws) = (dropSpaced? word cs).map (· ++ ws') := by
  obtain ⟨ws₁, hws₁, h₁⟩ := Ascii.exists_skipSpace_append cs hws
  rw [dropSpaced?, dropSpaced?, h₁, Ascii.dropWord?_append_blank hword hws₁]
  cases Ascii.dropWord? word (Ascii.skipSpace cs) with
  | none => exact ⟨[], rfl, rfl⟩
  | some rest =>
    obtain ⟨ws₂, hws₂, h₂⟩ := Ascii.exists_skipSpace_append rest hws₁
    exact ⟨ws₂, hws₂, congrArg some h₂⟩

theorem LengthUnit.read?_append_blank (hws : allBlank ws = true) :
    read? (cs ++ ws) = (read? cs).map fun (unit, rest) => (unit, rest ++ ws) := by
  have hpx : ∀ w ∈ ['p', 'x'], isBlank w.toLower = false := forall_mem_of_all (by decide)
  have hem : ∀ w ∈ ['e', 'm'], isBlank w.toLower = false := forall_mem_of_all (by decide)
  rw [read?, read?, Ascii.dropWord?_append_blank hpx hws, Ascii.dropWord?_append_blank hem hws]
  cases Ascii.dropWord? ['p', 'x'] cs with
  | some rest => rfl
  | none => cases Ascii.dropWord? ['e', 'm'] cs <;> rfl

/-- A bound ends with a parenthesis, so that it is there before any white space at the end. -/
theorem WidthBound.read?_append_blank {feature : List Char}
    (hfeature : ∀ w ∈ feature, isBlank w.toLower = false) (hws : allBlank ws = true) :
    read? feature (cs ++ ws) = read? feature cs := by
  obtain ⟨ws₁, hws₁, h₁⟩ := exists_dropSpaced?_append cs hfeature hws
  rw [read?, read?, h₁]
  cases dropSpaced? feature cs with
  | none => rfl
  | some colon =>
    obtain ⟨ws₂, hws₂, h₂⟩ := exists_dropSpaced?_append colon
      (show ∀ w ∈ [':'], isBlank w.toLower = false from forall_mem_of_all (by decide)) hws₁
    simp only [Option.map_some, Option.bind_eq_bind, Option.bind_some, h₂]
    cases dropSpaced? [':'] colon with
    | none => rfl
    | some number =>
      simp only [Option.map_some, Option.bind_some]
      rw [takeWhile_append_blank (fun _ => Blank.isNumeral_of_isBlank) hws₂,
        dropWhile_append_blank (fun _ => Blank.isNumeral_of_isBlank) hws₂,
        LengthUnit.read?_append_blank hws₂]
      cases LengthUnit.read? (number.dropWhile isNumeral) with
      | none => rfl
      | some answer =>
        obtain ⟨unit, rest⟩ := answer
        obtain ⟨ws₃, hws₃, h₃⟩ := Ascii.exists_skipSpace_append rest hws₂
        simp only [Option.map_some, Option.bind_some, h₃]
        cases Ascii.skipSpace rest with
        | cons d after =>
          by_cases hd : d = ')'
          · rw [hd]
            rfl
          · simp [hd]
        | nil =>
          -- the parenthesis is missing, and white space does not make up for it
          cases ws₃ with
          | nil => rfl
          | cons d after =>
            rw [Blank.allBlank_cons, Bool.and_eq_true] at hws₃
            have hd : d ≠ ')' := Blank.ne_of_isBlank hws₃.1 (by decide)
            simp [hd]

theorem findBound_append_blank {feature : List Char}
    (hfeature : ∀ w ∈ feature, isBlank w.toLower = false) (hws : allBlank ws = true) :
    findBound feature (cs ++ ws) = findBound feature cs := by
  induction cs with
  | nil =>
    rw [List.nil_append, ← List.append_nil ws]
    exact findBound_blank_append hws
  | cons c cs ih =>
    rw [List.cons_append, findBound, findBound, ih, WidthBound.read?_append_blank hfeature hws]

theorem letterRuns_append_blank (hws : allBlank ws = true) :
    letterRuns (cs ++ ws) = letterRuns cs := by
  have hnone : letterRuns ws = [] := by
    rw [← List.append_nil ws, letterRuns_blank_append hws]
    rfl
  induction cs with
  | nil => exact hnone
  | cons c cs ih =>
    cases hc : c.isAlpha with
    | false =>
      rw [List.cons_append, letterRuns_cons_of_not_isAlpha _ hc,
        letterRuns_cons_of_not_isAlpha _ hc]
      exact ih
    | true =>
      cases cs with
      | nil => simp [letterRuns, hc, hnone]
      | cons d cs =>
        rw [List.cons_append] at ih
        rw [List.cons_append, List.cons_append, letterRuns.eq_def, letterRuns.eq_def (c :: d :: cs)]
        simp only [hc, if_true, ih]
        cases letterRuns (d :: cs) <;> rfl

theorem mediaTypeOf_append_blank (hws : allBlank ws = true) :
    mediaTypeOf (cs ++ ws) = mediaTypeOf cs := by
  have htake : allBlank (ws.takeWhile (· != '(')) = true :=
    List.all_eq_true.mpr fun c hc =>
      List.all_eq_true.mp hws c ((List.takeWhile_sublist _).subset hc)
  have hruns : letterRuns ((cs ++ ws).takeWhile (· != '(')) =
      letterRuns (cs.takeWhile (· != '(')) := by
    rw [List.takeWhile_append]
    split
    · next h =>
      have hself : cs.takeWhile (· != '(') = cs := (List.takeWhile_sublist _).eq_of_length h
      rw [hself, letterRuns_append_blank htake]
    · rfl
  rw [mediaTypeOf, mediaTypeOf, hruns]

/-! ## Entries and lists -/

/-- The first text is the second with white space around it. -/
def IsPadded (a b : List Char) : Prop :=
  ∃ before after, allBlank before = true ∧ allBlank after = true ∧ a = before ++ (b ++ after)

theorem IsPadded.refl (cs : List Char) : IsPadded cs cs := ⟨[], [], rfl, rfl, by simp⟩

theorem Blank.isPadded_trim (cs : List Char) : IsPadded cs (trim cs) := by
  refine ⟨cs.takeWhile isBlank, ((trimLeft cs).reverse.takeWhile isBlank).reverse, ?_, ?_, ?_⟩
  · exact List.all_takeWhile
  · rw [allBlank, List.all_reverse]
    exact List.all_takeWhile
  · have hright : trim cs ++ ((trimLeft cs).reverse.takeWhile isBlank).reverse = trimLeft cs := by
      rw [trim, trimRight, ← List.reverse_append, List.takeWhile_append_dropWhile,
        List.reverse_reverse]
    rw [hright, trimLeft, List.takeWhile_append_dropWhile]

namespace Condition

theorem findBound_padded {a b : List Char} (feature : List Char)
    (hfeature : ∀ w ∈ feature, isBlank w.toLower = false) (h : IsPadded a b) :
    findBound feature a = findBound feature b := by
  obtain ⟨before, after, hbefore, hafter, rfl⟩ := h
  exact (findBound_blank_append hbefore).trans (findBound_append_blank hfeature hafter)

theorem mediaTypeOf_padded {a b : List Char} (h : IsPadded a b) :
    mediaTypeOf a = mediaTypeOf b := by
  obtain ⟨before, after, hbefore, hafter, rfl⟩ := h
  exact (mediaTypeOf_blank_append hbefore).trans (mediaTypeOf_append_blank hafter)

/-- An entry states the same condition with white space around it. -/
theorem read_padded {a b : List Char} (h : IsPadded a b) : read a = read b := by
  have hmin := findBound_padded "min-width".toList (forall_mem_of_all (by decide +kernel)) h
  have hmax := findBound_padded "max-width".toList (forall_mem_of_all (by decide +kernel)) h
  rw [read, read, mediaTypeOf_padded h, hmin, hmax]

theorem allBlank_padded {a b : List Char} (h : IsPadded a b) : allBlank a = allBlank b := by
  obtain ⟨before, after, hbefore, hafter, rfl⟩ := h
  rw [Blank.allBlank_append, Blank.allBlank_append, hbefore, hafter, Bool.true_and, Bool.and_true]

/-! ### The entries -/

open Split (consFirst consFirst_ne_nil)

variable {entries entries' : List (List Char)} {separator : Char} {depth : Nat}

/-- The entries of one list are those of the other with white space around them. -/
abbrev ArePadded (entries entries' : List (List Char)) : Prop :=
  List.Forall₂ IsPadded entries entries'

theorem arePadded_refl : ∀ entries : List (List Char), ArePadded entries entries
  | [] => .nil
  | entry :: rest => .cons (.refl entry) (arePadded_refl rest)

theorem splitFrom_ne_nil (separator : Char) (depth : Nat) (cs : List Char) :
    splitFrom separator depth cs ≠ [] := by
  cases cs with
  | nil => simp [splitFrom]
  | cons c cs =>
    rw [splitFrom]
    split
    · exact consFirst_ne_nil _ _
    split
    · exact consFirst_ne_nil _ _
    split
    · simp
    · exact consFirst_ne_nil _ _

/-- White space belongs to the entry at hand. -/
theorem splitFrom_cons_blank (hseparator : isBlank separator = false) (hc : isBlank c = true)
    (cs : List Char) :
    splitFrom separator depth (c :: cs) = consFirst c (splitFrom separator depth cs) := by
  have hopen : c ≠ '(' := Blank.ne_of_isBlank hc (by decide)
  have hclose : c ≠ ')' := Blank.ne_of_isBlank hc (by decide)
  have hne : c ≠ separator := Blank.ne_of_isBlank hc hseparator
  simp [splitFrom, hopen, hclose, hne]

/-- White space in front of a text stands in front of its first entry. -/
theorem splitFrom_blank_append {entry : List Char} {rest : List (List Char)}
    (hseparator : isBlank separator = false) (hws : allBlank ws = true)
    (h : splitFrom separator depth cs = entry :: rest) :
    splitFrom separator depth (ws ++ cs) = (ws ++ entry) :: rest := by
  induction ws with
  | nil => exact h
  | cons c ws ih =>
    rw [Blank.allBlank_cons, Bool.and_eq_true] at hws
    rw [List.cons_append, splitFrom_cons_blank hseparator hws.1, ih hws.2]
    rfl

/-- White space behind a text stands behind its last entry. -/
theorem exists_splitFrom_append_blank (hseparator : isBlank separator = false)
    (hws : allBlank ws = true) : ∀ (cs : List Char) (depth : Nat), ∃ entries entry,
      splitFrom separator depth cs = entries ++ [entry] ∧
        splitFrom separator depth (cs ++ ws) = entries ++ [entry ++ ws] := by
  -- a character in front changes the first entry alone, which may be the last one as well
  have hcons : ∀ (c : Char) (parts parts' : List (List Char)),
      (∃ entries entry, parts = entries ++ [entry] ∧ parts' = entries ++ [entry ++ ws]) →
      ∃ entries entry, consFirst c parts = entries ++ [entry] ∧
        consFirst c parts' = entries ++ [entry ++ ws] := by
    rintro c _ _ ⟨entries, entry, rfl, rfl⟩
    cases entries with
    | nil => exact ⟨[], c :: entry, rfl, rfl⟩
    | cons first rest => exact ⟨(c :: first) :: rest, entry, rfl, rfl⟩
  intro cs
  induction cs with
  | nil =>
    intro depth
    have hsplit : splitFrom separator depth (ws ++ []) = [ws ++ []] :=
      splitFrom_blank_append hseparator hws rfl
    rw [List.append_nil] at hsplit
    exact ⟨[], [], rfl, hsplit⟩
  | cons c cs ih =>
    intro depth
    rw [List.cons_append, splitFrom, splitFrom]
    split
    · exact hcons c _ _ (ih _)
    split
    · exact hcons c _ _ (ih _)
    split
    · obtain ⟨entries, entry, h, h'⟩ := ih 0
      exact ⟨[] :: entries, entry, by rw [h]; rfl, by rw [h']; rfl⟩
    · exact hcons c _ _ (ih _)

/-! ### The list -/

theorem map_read_arePadded (h : ArePadded entries entries') :
    (entries.filter fun entry => !allBlank entry).map read =
      (entries'.filter fun entry => !allBlank entry).map read := by
  induction h with
  | nil => rfl
  | cons hentry _ ih =>
    rw [List.filter_cons, List.filter_cons, allBlank_padded hentry]
    split
    · rw [List.map_cons, List.map_cons, read_padded hentry, ih]
    · exact ih

/-- The conditions of a list are those of its entries, blank ones apart. -/
theorem readList_congr {a b : List Char} (h : ArePadded (split ',' a) (split ',' b)) :
    readList a = readList b := by
  have hread := map_read_arePadded h
  rw [readList, readList]
  cases ha : (split ',' a).filter fun entry => !allBlank entry with
  | nil =>
    rw [ha, List.map_nil] at hread
    rw [List.map_eq_nil_iff.mp hread.symm]
  | cons entry rest =>
    cases hb : (split ',' b).filter fun entry => !allBlank entry with
    | nil =>
      rw [ha, hb, List.map_nil] at hread
      exact absurd hread (by simp)
    | cons entry' rest' =>
      rw [ha, hb] at hread
      exact hread

/-- White space around a media query list makes no difference to what it states. -/
theorem readList_padded {a b : List Char} (h : IsPadded a b) : readList a = readList b := by
  obtain ⟨before, after, hbefore, hafter, rfl⟩ := h
  have hcomma : isBlank ',' = false := by decide
  have hfront : ArePadded (split ',' (before ++ (b ++ after))) (split ',' (b ++ after)) := by
    obtain ⟨entry, rest, hsplit⟩ :=
      List.exists_cons_of_ne_nil (splitFrom_ne_nil ',' 0 (b ++ after))
    rw [split, split, splitFrom_blank_append hcomma hbefore hsplit, hsplit]
    exact .cons ⟨before, [], hbefore, rfl, by simp⟩ (arePadded_refl rest)
  have hback : ArePadded (split ',' (b ++ after)) (split ',' b) := by
    obtain ⟨entries, entry, hsplit, hsplit'⟩ := exists_splitFrom_append_blank hcomma hafter b 0
    rw [split, split, hsplit, hsplit']
    exact List.rel_append (arePadded_refl entries) (.cons ⟨[], after, rfl, hafter, rfl⟩ .nil)
  exact (readList_congr hfront).trans (readList_congr hback)

end Condition

end MediaQuery
