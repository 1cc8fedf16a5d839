import MediaQuery.Proofs.Condition.Padding

/-!
# The entries of a media query list

Splitting a list loses nothing, and it splits wherever a separator stands outside parentheses: the
parts, joined again, are the text (`join_splitFrom`), and no part can be split further
(`undivided_of_splitFrom`). Together with what follows a separator that stands outside parentheses
(`splitFrom_append`) this settles how lists are read: entry by entry, whatever stands in the others.

* `lists_are_read_entry_by_entry` — the law for texts, for entries, and for two lists in a row
-/

namespace MediaQuery.Condition

open Blank (allBlank)
open Split (consFirst join join_consFirst)

variable {separator c : Char} {depth : Nat} {cs part : List Char} {parts entries : List (List Char)}

/-! ## Parentheses -/

/-- The number of parentheses that are open behind a character, if `depth` are open before it. A
closing one that matches nothing is ignored. -/
def nest (depth : Nat) (c : Char) : Nat :=
  if c = '(' then depth + 1 else if c = ')' then depth - 1 else depth

/-- The number of parentheses that are open at the end of a text, if `depth` are open at its
start. -/
def depthFrom (depth : Nat) (cs : List Char) : Nat := cs.foldl nest depth

/-- The number of parentheses that a text leaves open. -/
def openDepth (cs : List Char) : Nat := depthFrom 0 cs

/-- No separator of a text stands outside parentheses, if `depth` are open at its start. -/
def IsUndividedFrom (separator : Char) (depth : Nat) (cs : List Char) : Prop :=
  ∀ before after, cs = before ++ separator :: after → depthFrom depth before ≠ 0

/-- No separator of a text stands outside parentheses. -/
def IsUndivided (separator : Char) (cs : List Char) : Prop := IsUndividedFrom separator 0 cs

@[simp] theorem depthFrom_nil (depth : Nat) : depthFrom depth [] = depth := rfl

@[simp] theorem depthFrom_cons (depth : Nat) (c : Char) (cs : List Char) :
    depthFrom depth (c :: cs) = depthFrom (nest depth c) cs := rfl

theorem isUndividedFrom_nil : IsUndividedFrom separator depth [] := by
  intro before after h
  cases before <;> exact absurd h (by simp)

theorem isUndividedFrom_cons :
    IsUndividedFrom separator depth (c :: cs) ↔
      (c = separator → depth ≠ 0) ∧ IsUndividedFrom separator (nest depth c) cs := by
  constructor
  · intro h
    constructor
    · rintro rfl
      exact h [] cs rfl
    · rintro before after rfl
      exact h (c :: before) after rfl
  · rintro ⟨hc, hcs⟩ before after h
    cases before with
    | nil =>
      obtain ⟨rfl, -⟩ := List.cons.inj h
      exact hc rfl
    | cons d before =>
      obtain ⟨rfl, rfl⟩ := List.cons.inj h
      exact hcs before after rfl

/-! ## Splitting -/

theorem join_consFirst_splitFrom (separator c : Char) (depth : Nat) (cs : List Char) :
    join separator (consFirst c (splitFrom separator depth cs)) =
      c :: join separator (splitFrom separator depth cs) :=
  join_consFirst _ _ (splitFrom_ne_nil separator depth cs)

/-- Whatever the separator is, the parts of a text make it up again. -/
theorem join_splitFrom (separator : Char) (depth : Nat) (cs : List Char) :
    join separator (splitFrom separator depth cs) = cs := by
  induction cs generalizing depth with
  | nil => rfl
  | cons c cs ih =>
    rw [splitFrom]
    split
    · rw [join_consFirst_splitFrom, ih]
    split
    · rw [join_consFirst_splitFrom, ih]
    split
    · next h =>
      obtain ⟨rfl, -⟩ : c = separator ∧ depth = 0 := by simpa using h
      obtain ⟨part, parts, hparts⟩ := List.exists_cons_of_ne_nil (splitFrom_ne_nil c 0 cs)
      have hrest := ih 0
      rw [hparts] at hrest ⊢
      rw [join, hrest, List.nil_append]
      simp
    · rw [join_consFirst_splitFrom, ih]

section

variable (hopen : separator ≠ '(') (hclose : separator ≠ ')')

include hopen hclose

/-- A separator outside parentheses ends a part, and any other character belongs to the part at
hand. -/
theorem splitFrom_cons (depth : Nat) (c : Char) (cs : List Char) :
    splitFrom separator depth (c :: cs) =
      if c = separator ∧ depth = 0 then [] :: splitFrom separator 0 cs
      else consFirst c (splitFrom separator (nest depth c) cs) := by
  rw [splitFrom]
  by_cases hc : c = '('
  · simp [hc, nest, hopen.symm]
  by_cases hc' : c = ')'
  · simp [hc', nest, hclose.symm]
  simp [hc, hc', nest]

/-- No part can be split further. -/
theorem undivided_of_splitFrom (h : splitFrom separator depth cs = part :: parts) :
    IsUndividedFrom separator depth part ∧ ∀ part ∈ parts, IsUndivided separator part := by
  induction cs generalizing depth part parts with
  | nil =>
    obtain ⟨rfl, rfl⟩ := List.cons.inj h
    exact ⟨isUndividedFrom_nil, by simp⟩
  | cons c cs ih =>
    rw [splitFrom_cons hopen hclose] at h
    split at h
    · obtain ⟨first, rest, hparts⟩ := List.exists_cons_of_ne_nil (splitFrom_ne_nil separator 0 cs)
      obtain ⟨hfirst, hrest⟩ := ih hparts
      rw [hparts] at h
      obtain ⟨rfl, rfl⟩ := List.cons.inj h
      exact ⟨isUndividedFrom_nil, List.forall_mem_cons.mpr ⟨hfirst, hrest⟩⟩
    · next hc =>
      obtain ⟨first, rest, hparts⟩ :=
        List.exists_cons_of_ne_nil (splitFrom_ne_nil separator (nest depth c) cs)
      obtain ⟨hfirst, hrest⟩ := ih hparts
      rw [hparts] at h
      obtain ⟨rfl, rfl⟩ := List.cons.inj h
      exact ⟨isUndividedFrom_cons.mpr ⟨fun hsep hdepth => hc ⟨hsep, hdepth⟩, hfirst⟩, hrest⟩

/-- A text that can not be split is its only part. -/
theorem splitFrom_of_isUndividedFrom (h : IsUndividedFrom separator depth cs) :
    splitFrom separator depth cs = [cs] := by
  induction cs generalizing depth with
  | nil => rfl
  | cons c cs ih =>
    obtain ⟨hc, hcs⟩ := isUndividedFrom_cons.mp h
    rw [splitFrom_cons hopen hclose, if_neg fun hsep => hc hsep.1 hsep.2, ih hcs]
    rfl

/-- What follows a separator outside parentheses is split as if it stood alone. -/
theorem splitFrom_append (a b : List Char) (h : depthFrom depth a = 0) :
    splitFrom separator depth (a ++ separator :: b) =
      splitFrom separator depth a ++ splitFrom separator 0 b := by
  induction a generalizing depth with
  | nil =>
    rw [List.nil_append, splitFrom_cons hopen hclose, if_pos ⟨rfl, h⟩]
    rfl
  | cons c a ih =>
    rw [List.cons_append, splitFrom_cons hopen hclose, splitFrom_cons hopen hclose]
    split
    · next hc =>
      have hnest : nest depth c = 0 := by
        rw [hc.1, hc.2, nest, if_neg hopen, if_neg hclose]
      rw [depthFrom_cons, hnest] at h
      rw [ih h]
      rfl
    · obtain ⟨first, rest, hparts⟩ :=
        List.exists_cons_of_ne_nil (splitFrom_ne_nil separator (nest depth c) a)
      rw [ih h, hparts]
      rfl

/-- Entries that can not be split further are the parts of the text that they make up. -/
theorem split_join (hne : entries ≠ [])
    (h : ∀ entry ∈ entries, openDepth entry = 0 ∧ IsUndivided separator entry) :
    split separator (join separator entries) = entries := by
  induction entries with
  | nil => exact absurd rfl hne
  | cons entry rest ih =>
    obtain ⟨hdepth, hundivided⟩ := h entry List.mem_cons_self
    have hentry : split separator entry = [entry] :=
      splitFrom_of_isUndividedFrom hopen hclose hundivided
    cases rest with
    | nil => exact hentry
    | cons next rest =>
      have hrest := ih (List.cons_ne_nil _ _) fun e he => h e (List.mem_cons_of_mem _ he)
      have hjoin : join separator (entry :: next :: rest) =
          entry ++ separator :: join separator (next :: rest) := rfl
      rw [hjoin, split, splitFrom_append hopen hclose _ _ hdepth]
      exact congr_arg₂ (· ++ ·) hentry hrest

end

/-! ## Reading entries -/

/-- The conditions that some entries state: one for each entry that is not blank, or the one that
always holds if there is none. -/
def ofEntries (entries : List (List Char)) : List Condition :=
  if entries.all allBlank then [all] else (entries.filter fun entry => !allBlank entry).map read

theorem readList_eq (cs : List Char) : readList cs = ofEntries (split ',' cs) := by
  have hnil : (split ',' cs).all allBlank = true ↔
      (split ',' cs).filter (fun entry => !allBlank entry) = [] := by
    rw [List.all_eq_true, List.filter_eq_nil_iff]
    simp
  rw [readList, ofEntries]
  split
  · next h => rw [if_pos (hnil.mpr h)]
  · next h => rw [if_neg fun hall => h (hnil.mp hall)]

theorem ofEntries_of_exists (h : ∃ entry ∈ entries, allBlank entry = false) :
    ofEntries entries = (entries.filter fun entry => !allBlank entry).map read := by
  obtain ⟨entry, hmem, hentry⟩ := h
  rw [ofEntries, if_neg]
  intro hall
  rw [List.all_eq_true.mp hall entry hmem] at hentry
  exact Bool.noConfusion hentry

theorem ofEntries_ne_nil (entries : List (List Char)) : ofEntries entries ≠ [] := by
  rw [ofEntries]
  split
  · exact List.cons_ne_nil _ _
  · next h =>
    rw [List.all_eq_true, not_forall] at h
    obtain ⟨entry, h⟩ := h
    obtain ⟨hmem, hentry⟩ := Classical.not_imp.mp h
    rw [ne_eq, List.map_eq_nil_iff, List.filter_eq_nil_iff]
    exact fun hnone => hnone entry hmem (by simpa using hentry)

theorem readList_ne_nil (cs : List Char) : readList cs ≠ [] := by
  rw [readList_eq]
  exact ofEntries_ne_nil _

/-- Where there is an entry on either side, neither side needs the condition that always holds. -/
theorem ofEntries_append {a b : List (List Char)} (ha : ∃ entry ∈ a, allBlank entry = false)
    (hb : ∃ entry ∈ b, allBlank entry = false) :
    ofEntries (a ++ b) = ofEntries a ++ ofEntries b := by
  obtain ⟨entry, hmem, hentry⟩ := ha
  rw [ofEntries_of_exists ⟨entry, hmem, hentry⟩, ofEntries_of_exists hb,
    ofEntries_of_exists ⟨entry, List.mem_append_left _ hmem, hentry⟩, List.filter_append,
    List.map_append]

/-- A text that is split at a separator other than a parenthesis can be put together from its parts
again, and no part holds the separator outside parentheses. Entries that leave no parenthesis open
and hold no comma outside parentheses state, joined by commas, the conditions of those that are not
blank, in order, or the condition that always holds if all are. No text states none at all. Two
lists in a row state what the first states and then what the second states, if the first leaves no
parenthesis open and each has an entry that is not blank. -/
theorem lists_are_read_entry_by_entry :
    (∀ (separator : Char) (text : List Char), separator ≠ '(' → separator ≠ ')' →
      join separator (split separator text) = text ∧
        ∀ part ∈ split separator text, IsUndivided separator part) ∧
      (∀ entries : List (List Char),
        (∀ entry ∈ entries, openDepth entry = 0 ∧ IsUndivided ',' entry) →
        readList (join ',' entries) =
          if entries.all allBlank then [all]
          else (entries.filter fun entry => !allBlank entry).map read) ∧
      (∀ text : List Char, readList text ≠ []) ∧
      ∀ a b : List Char, openDepth a = 0 → (∃ entry ∈ split ',' a, allBlank entry = false) →
        (∃ entry ∈ split ',' b, allBlank entry = false) →
        readList (a ++ ',' :: b) = readList a ++ readList b := by
  have hopen : ',' ≠ '(' := by decide
  have hclose : ',' ≠ ')' := by decide
  refine ⟨?_, ?_, readList_ne_nil, ?_⟩
  · intro separator text hopen hclose
    refine ⟨join_splitFrom separator 0 text, ?_⟩
    obtain ⟨part, parts, hparts⟩ := List.exists_cons_of_ne_nil (splitFrom_ne_nil separator 0 text)
    obtain ⟨hpart, hrest⟩ := undivided_of_splitFrom hopen hclose hparts
    rw [split, hparts]
    exact List.forall_mem_cons.mpr ⟨hpart, hrest⟩
  · intro entries h
    cases entries with
    | nil => exact readList_eq []
    | cons entry rest =>
      rw [readList_eq, split_join hopen hclose (List.cons_ne_nil _ _) h, ofEntries]
  · intro a b hdepth ha hb
    have hsplit : split ',' (a ++ ',' :: b) = split ',' a ++ split ',' b :=
      splitFrom_append hopen hclose a b hdepth
    rw [readList_eq, readList_eq, readList_eq, hsplit, ofEntries_append ha hb]

/-- A closing parenthesis that matches nothing, a comma inside parentheses, a blank entry, and a
parenthesis that is never closed. -/
theorem two_ragged_lists_are_read_in_a_row :
    openDepth "a),(b,c)".toList = 0 ∧
      split ',' "a),(b,c)".toList = ["a)".toList, "(b,c)".toList] ∧
      split ',' " ,print(".toList = [" ".toList, "print(".toList] ∧
      readList ("a),(b,c)".toList ++ ',' :: " ,print(".toList) =
        readList "a),(b,c)".toList ++ readList " ,print(".toList := by
  have hfirst : split ',' "a),(b,c)".toList = ["a)".toList, "(b,c)".toList] := by decide +kernel
  have hsecond : split ',' " ,print(".toList = [" ".toList, "print(".toList] := by decide +kernel
  have hdepth : openDepth "a),(b,c)".toList = 0 := by decide +kernel
  refine ⟨hdepth, hfirst, hsecond, lists_are_read_entry_by_entry.2.2.2 _ _ hdepth ?_ ?_⟩
  · exact ⟨"a)".toList, by rw [hfirst]; exact List.mem_cons_self, by decide +kernel⟩
  · rw [hsecond]
    exact ⟨"print(".toList, List.mem_cons_of_mem _ List.mem_cons_self, by decide +kernel⟩

end MediaQuery.Condition
