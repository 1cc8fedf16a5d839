import MediaQuery.Proofs.Condition.Entries
import MediaQuery.Proofs.Condition.Grammar
import MediaQuery.Proofs.Css.Lexeme

/-!
# Comments in media query lists

A list is read as if there were no comments: the text of a comment is split, searched for bounds and
taken for words like any other. What is read from a text made of two is settled for each of the
readers: bounds (`findBound_append`), words (`letterRuns_append`), the media type
(`SettlesType.mediaTypeOf_append`) and entries (`splitFrom_append_of_eq`). It follows when a comment
changes nothing (`IsIdle`).

* `IsIdle.readList_comment` — a list with an idle comment states what it states without
-/

namespace MediaQuery

open Blank (allBlank)
open Split (join)

variable {feature front within back rest cs : List Char} {c d : Char} {b : WidthBound}

/-! ## Bounds in a text made of two -/

/-- The characters that end a bound and those that begin and end a comment. -/
def boundMarks : List Char := [')', '/', '*']

/-- The names of the features that bounds are read for. -/
def features : List (List Char) := ["min-width".toList, "max-width".toList]

theorem exists_of_mem_features (h : feature ∈ features) : ∃ w word, feature = w :: word ∧
    Blank.isBlank w.toLower = false ∧ ∀ c ∈ boundMarks, c.toLower ∉ Ascii.lower feature := by
  rcases List.mem_pair.mp h with rfl | rfl
  · exact ⟨'m', "in-width".toList, by decide +kernel, by decide,
      forall_mem_of_all (by decide +kernel)⟩
  · exact ⟨'m', "ax-width".toList, by decide +kernel, by decide,
      forall_mem_of_all (by decide +kernel)⟩

theorem read?_eq_some_iff_of_mem_features (h : feature ∈ features) :
    WidthBound.read? feature cs = some b ↔ StatesBound feature b cs := by
  obtain ⟨w, word, rfl, hw, -⟩ := exists_of_mem_features h
  exact WidthBound.read?_eq_some_iff hw

theorem not_mem_of_sameLetters {spelled word : List Char}
    (h : Ascii.sameLetters spelled word = true) (hc : c.toLower ∉ Ascii.lower word) :
    c ∉ spelled := by
  intro hmem
  have hlower : Ascii.lower spelled = Ascii.lower word := by simpa [Ascii.sameLetters] using h
  rw [← hlower] at hc
  exact hc (List.mem_map_of_mem hmem)

/-- A bound is stated by the text up to the first closing parenthesis, whatever is behind, and no
comment begins in it. -/
theorem StatesBound.exists_text (hfeature : feature ∈ features) (h : StatesBound feature b cs) :
    ∃ text rest, cs = text ++ ')' :: rest ∧ (∀ c ∈ boundMarks, c ∉ text) ∧
      ∀ rest', StatesBound feature b (text ++ ')' :: rest') := by
  obtain ⟨space₁, name, space₂, space₃, number, unit, space₄, rest, rfl, hspaces, hname, hnumber,
    hunit⟩ := h
  have hstates : ∀ rest', StatesBound feature b
      (space₁ ++ (name ++ (space₂ ++ ':' :: (space₃ ++ (number ++ (unit ++ space₄))))) ++
        ')' :: rest') := fun rest' =>
    ⟨space₁, name, space₂, space₃, number, unit, space₄, rest', by simp, hspaces, hname, hnumber,
      hunit⟩
  refine ⟨_, rest, by simp, fun c hc => ?_, hstates⟩
  -- no mark belongs to any of the parts that a bound is made of
  obtain ⟨-, -, -, -, hnot⟩ := exists_of_mem_features hfeature
  have hspace : ∀ {space : List Char}, IsSpace space → c ∉ space := fun hspace hmem => by
    have hmarks : ∀ c ∈ boundMarks, Ascii.isSpace c = false := forall_mem_of_all (by decide)
    exact absurd (hspace c hmem) (by simp [hmarks c hc])
  have hnumeral : c ∉ number := fun hmem => by
    have hmarks : ∀ c ∈ boundMarks, isNumeral c = false := forall_mem_of_all (by decide)
    exact absurd (hnumber.isNumeral c hmem) (by simp [hmarks c hc])
  have hcolon : c ≠ ':' := by
    have hmarks : ∀ c ∈ boundMarks, c ≠ ':' := forall_mem_of_all (by decide)
    exact hmarks c hc
  have hletters : c.toLower ∉ Ascii.lower b.unit.text.toList := by
    have hpx : ∀ c ∈ boundMarks, c.toLower ∉ Ascii.lower LengthUnit.px.text.toList :=
      forall_mem_of_all (by decide +kernel)
    have hem : ∀ c ∈ boundMarks, c.toLower ∉ Ascii.lower LengthUnit.em.text.toList :=
      forall_mem_of_all (by decide +kernel)
    cases b.unit with
    | px => exact hpx c hc
    | em => exact hem c hc
  simp only [List.mem_append, List.mem_cons, not_or]
  exact ⟨hspace hspaces.1, not_mem_of_sameLetters hname (hnot c hc), hspace hspaces.2.1, hcolon,
    hspace hspaces.2.2.1, hnumeral, not_mem_of_sameLetters hunit hletters, hspace hspaces.2.2.2⟩

/-- A text in which a parenthesis closes states a bound whatever is behind it. -/
theorem read?_append_of_mem (hfeature : feature ∈ features) (hmem : ')' ∈ front)
    (rest : List Char) :
    WidthBound.read? feature (front ++ rest) = WidthBound.read? feature front := by
  refine Option.ext fun b => ?_
  rw [read?_eq_some_iff_of_mem_features hfeature, read?_eq_some_iff_of_mem_features hfeature]
  obtain ⟨run, more, rfl, hrun⟩ := List.eq_append_cons_of_mem hmem
  constructor
  · intro h
    obtain ⟨text, behind, heq, hmarks, hstates⟩ := h.exists_text hfeature
    rw [List.append_assoc, List.cons_append] at heq
    obtain ⟨rfl, -⟩ := append_cons_inj_of_not_mem hrun (hmarks ')' (by decide)) heq
    exact hstates more
  · intro h
    obtain ⟨text, behind, heq, hmarks, hstates⟩ := h.exists_text hfeature
    obtain ⟨rfl, -⟩ := append_cons_inj_of_not_mem hrun (hmarks ')' (by decide)) heq
    rw [List.append_assoc, List.cons_append]
    exact hstates _

theorem read?_eq_none_of_not_mem (hfeature : feature ∈ features) (h : ')' ∉ cs) :
    WidthBound.read? feature cs = none := by
  rw [Option.eq_none_iff_forall_ne_some]
  intro b hb
  obtain ⟨text, behind, rfl, -⟩ :=
    ((read?_eq_some_iff_of_mem_features hfeature).mp hb).exists_text hfeature
  exact h (by simp)

/-- No bound goes on across a slash or a star. -/
theorem read?_append_eq_none (hfeature : feature ∈ features) (hfront : ')' ∉ front)
    (hd : d = '/' ∨ d = '*') (rest : List Char) :
    WidthBound.read? feature (front ++ d :: rest) = none := by
  rw [Option.eq_none_iff_forall_ne_some]
  intro b hb
  obtain ⟨text, behind, heq, hmarks, -⟩ :=
    ((read?_eq_some_iff_of_mem_features hfeature).mp hb).exists_text hfeature
  have hne : d ∉ text ∧ d ≠ ')' := by
    rcases hd with rfl | rfl <;> exact ⟨hmarks _ (by decide), by decide⟩
  rcases List.append_eq_append_iff.mp heq with ⟨more, rfl, hmore⟩ | ⟨more, rfl, hmore⟩
  · cases more with
    | nil => exact hne.2 (List.cons.inj hmore).1
    | cons e more =>
      obtain ⟨rfl, -⟩ := List.cons.inj hmore
      exact hne.1 (by simp)
  · cases more with
    | nil => exact hne.2 (List.cons.inj hmore).1.symm
    | cons e more =>
      obtain ⟨rfl, -⟩ := List.cons.inj hmore
      exact hfront (by simp)

/-- The first bound of a text made of two is the first of either, if none reaches from the one into
the other. -/
theorem findBound_append (hfeature : feature ∈ features)
    (h : ∀ before within, front = before ++ '(' :: within → ')' ∉ within →
      WidthBound.read? feature (within ++ back) = none) :
    findBound feature (front ++ back) = (findBound feature front).or (findBound feature back) := by
  induction front with
  | nil => rfl
  | cons c front ih =>
    have hrest := ih fun before within heq => h (c :: before) within (by rw [heq, List.cons_append])
    rw [List.cons_append, findBound, findBound, hrest]
    split
    · next hc =>
      obtain rfl : c = '(' := by simpa using hc
      rw [Option.or_assoc]
      congr 1
      -- behind a parenthesis that closes in the first text, the second has no say
      by_cases hmem : ')' ∈ front
      · exact read?_append_of_mem hfeature hmem back
      · rw [h [] front rfl hmem, read?_eq_none_of_not_mem hfeature hmem]
    · rfl

/-! ## Words in a text made of two -/

/-- No word reaches from one text into the other. -/
def AreApart (front back : List Char) : Prop :=
  (∀ c, front.getLast? = some c → c.isAlpha = false) ∨ StopsAt Char.isAlpha back

theorem areApart_cons {cs : List Char} (hc : c.isAlpha = false) : AreApart front (c :: cs) :=
  Or.inr (stopsAt_cons hc)

theorem AreApart.of_append {before : List Char} (h : AreApart (before ++ front) back) :
    AreApart front back :=
  h.imp_left fun hlast c hc => hlast c (by rw [List.getLast?_append, hc]; rfl)

theorem letterRuns_append_of_isWordless (h : IsWordless front) :
    letterRuns (front ++ back) = letterRuns back := by
  induction front with
  | nil => rfl
  | cons c front ih =>
    rw [List.cons_append, letterRuns_cons_of_not_isAlpha _ (h c List.mem_cons_self)]
    exact ih fun d hd => h d (List.mem_cons_of_mem _ hd)

/-- The words of a text made of two are those of either, if none reaches across. -/
theorem letterRuns_append (h : AreApart front back) :
    letterRuns (front ++ back) = letterRuns front ++ letterRuns back := by
  -- word by word: what follows the first word of the first text is shorter, and still apart
  induction hn : front.length using Nat.strongRecOn generalizing front with
  | ind n ih =>
    subst hn
    rcases isWordless_or_firstWord front with hnone | ⟨word, rest, hword⟩
    · rw [letterRuns_append_of_isWordless hnone, letterRuns_of_isWordless hnone, List.nil_append]
    · have hruns := hword.letterRuns_eq
      obtain ⟨junk, rfl, hjunk, hne, hletters, hstops⟩ := hword
      rw [← List.append_assoc] at h
      have hrest : AreApart rest back := h.of_append
      have hstops' : StopsAt Char.isAlpha (rest ++ back) := by
        cases rest with
        | cons d rest => exact stopsAt_cons (hstops d rfl)
        | nil =>
          refine h.resolve_left fun hlast => ?_
          obtain ⟨c, hc⟩ := List.getLast?_isSome.mpr hne |> Option.isSome_iff_exists.mp
          have halpha := hletters c (List.mem_of_getLast? hc)
          rw [hlast c (by simp [List.getLast?_append, hc])] at halpha
          exact Bool.noConfusion halpha
      have hword' : IsFirstWord word (rest ++ back) (junk ++ (word ++ rest) ++ back) :=
        ⟨junk, by simp, hjunk, hne, hletters, hstops'⟩
      have hshorter : rest.length < (junk ++ (word ++ rest)).length := by
        have hpos := List.length_pos_iff.mpr hne
        simp only [List.length_append]
        omega
      rw [hword'.letterRuns_eq, hruns, ih rest.length hshorter hrest rfl, List.cons_append]

/-! ## The media type of a text made of two -/

/-- What comes behind an entry so far does not change the media type any more: a parenthesis has
ended the text in which the type stands, or the word is there that names it. -/
def SettlesType (front : List Char) : Prop :=
  '(' ∈ front ∨ ∃ word rest, IsFirstWord word rest front ∧ (IsOnly word → ¬ IsWordless rest)

theorem takeWhile_append_of_not_mem (h : '(' ∉ front) (back : List Char) :
    (front ++ back).takeWhile (· != '(') = front ++ back.takeWhile (· != '(') :=
  List.takeWhile_append_of_pos fun c hc => by simpa using ne_of_mem_of_not_mem hc h

theorem AreApart.takeWhile (h : AreApart front back) :
    AreApart front (back.takeWhile (· != '(')) := by
  refine h.imp_right fun hstops c hc => ?_
  cases back with
  | nil => exact absurd hc (by simp)
  | cons d back =>
    rw [List.takeWhile_cons] at hc
    split at hc
    · exact hstops c hc
    · exact absurd hc (by simp)

theorem mediaTypeOf_of_letterRuns {cs word : List Char} {words : List (List Char)}
    (h : letterRuns (cs.takeWhile (· != '(')) = word :: words) :
    mediaTypeOf cs = Ascii.lower
      (if Ascii.sameLetters word ['o', 'n', 'l', 'y'] then words.headD word else word) := by
  rw [mediaTypeOf, h]
  cases words with
  | nil => exact congrArg _ (ite_self word).symm
  | cons second words => rfl

theorem SettlesType.mediaTypeOf_append {back' : List Char} (h : SettlesType front)
    (hback : AreApart front back) (hback' : AreApart front back') :
    mediaTypeOf (front ++ back) = mediaTypeOf (front ++ back') := by
  by_cases hopen : '(' ∈ front
  · have htake : ∀ back, mediaTypeOf (front ++ back) = mediaTypeOf front := fun back => by
      rw [mediaTypeOf, mediaTypeOf, takeWhile_append_of_mem hopen (by simp)]
    rw [htake, htake]
  · obtain ⟨word, rest, hword, honly⟩ := h.resolve_left hopen
    have hletters : ∀ {back}, AreApart front back →
        letterRuns ((front ++ back).takeWhile (· != '(')) =
          word :: (letterRuns rest ++ letterRuns (back.takeWhile (· != '('))) :=
      fun {back} hback => by
        rw [takeWhile_append_of_not_mem hopen, letterRuns_append hback.takeWhile,
          hword.letterRuns_eq, List.cons_append]
    rw [mediaTypeOf_of_letterRuns (hletters hback), mediaTypeOf_of_letterRuns (hletters hback')]
    rcases isWordless_or_firstWord rest with hnone | ⟨second, _, hsecond⟩
    · -- the only word so far is not `only`, so that it is the type whatever words come behind
      have hnot : ¬ Ascii.sameLetters word ['o', 'n', 'l', 'y'] = true := fun h => honly h hnone
      rw [if_neg hnot, if_neg hnot]
    · rw [hsecond.letterRuns_eq]
      rfl

/-- A text without words and parentheses does not change it either. -/
theorem mediaTypeOf_append_of_isWordless {middle : List Char} (hmiddle : IsWordless middle)
    (hopen : '(' ∉ middle) (h : AreApart front back) (h' : AreApart front (middle ++ back)) :
    mediaTypeOf (front ++ (middle ++ back)) = mediaTypeOf (front ++ back) := by
  have hruns : letterRuns ((front ++ (middle ++ back)).takeWhile (· != '(')) =
      letterRuns ((front ++ back).takeWhile (· != '(')) := by
    by_cases hmem : '(' ∈ front
    · rw [takeWhile_append_of_mem hmem (by simp), takeWhile_append_of_mem hmem (by simp)]
    · rw [takeWhile_append_of_not_mem hmem, takeWhile_append_of_not_mem hmem,
        letterRuns_append h.takeWhile, letterRuns_append h'.takeWhile,
        takeWhile_append_of_not_mem hopen, letterRuns_append_of_isWordless hmiddle]
  rw [mediaTypeOf, mediaTypeOf, hruns]

namespace Condition

/-! ## Splitting a text made of two -/

variable {separator : Char} {depth : Nat} {inner entry entry' : List Char}
  {earlier later : List (List Char)}

theorem isUndividedFrom_append {a b : List Char} :
    IsUndividedFrom separator depth (a ++ b) ↔
      IsUndividedFrom separator depth a ∧ IsUndividedFrom separator (depthFrom depth a) b := by
  induction a generalizing depth with
  | nil => exact (and_iff_right isUndividedFrom_nil).symm
  | cons c a ih =>
    rw [List.cons_append, isUndividedFrom_cons, isUndividedFrom_cons, ih, depthFrom_cons, and_assoc]

theorem depthFrom_append (depth : Nat) (a b : List Char) :
    depthFrom depth (a ++ b) = depthFrom (depthFrom depth a) b := List.foldl_append

/-- The last part of one text and the first of another, split at the depth that the one leaves open,
are one part of the two together. -/
theorem exists_splitFrom_append (hopen : separator ≠ '(') (hclose : separator ≠ ')') (depth : Nat)
    (a : List Char) : ∃ earlier front, splitFrom separator depth a = earlier ++ [front] ∧
      ∀ b back later, splitFrom separator (depthFrom depth a) b = back :: later →
        splitFrom separator depth (a ++ b) = earlier ++ (front ++ back) :: later := by
  induction a generalizing depth with
  | nil => exact ⟨[], [], rfl, fun b back later h => h⟩
  | cons c a ih =>
    by_cases hc : c = separator ∧ depth = 0
    · obtain ⟨earlier, front, hparts, hall⟩ := ih 0
      have hnest : nest depth c = 0 := by rw [hc.1, hc.2, nest, if_neg hopen, if_neg hclose]
      refine ⟨[] :: earlier, front, ?_, fun b back later h => ?_⟩
      · rw [splitFrom_cons hopen hclose, if_pos hc, hparts, List.cons_append]
      · rw [depthFrom_cons, hnest] at h
        rw [List.cons_append, splitFrom_cons hopen hclose, if_pos hc, hall b back later h,
          List.cons_append]
    · obtain ⟨earlier, front, hparts, hall⟩ := ih (nest depth c)
      cases earlier with
      | nil =>
        refine ⟨[], c :: front, ?_, fun b back later h => ?_⟩
        · rw [splitFrom_cons hopen hclose, if_neg hc, hparts]
          rfl
        · rw [List.cons_append, splitFrom_cons hopen hclose, if_neg hc, hall b back later h]
          rfl
      | cons first earlier =>
        refine ⟨(c :: first) :: earlier, front, ?_, fun b back later h => ?_⟩
        · rw [splitFrom_cons hopen hclose, if_neg hc, hparts]
          rfl
        · rw [List.cons_append, splitFrom_cons hopen hclose, if_neg hc, hall b back later h]
          rfl

theorem splitFrom_append_of_eq {a b : List Char} (hopen : separator ≠ '(')
    (hclose : separator ≠ ')') (ha : splitFrom separator depth a = earlier ++ [front])
    (hb : splitFrom separator (depthFrom depth a) b = back :: later) :
    splitFrom separator depth (a ++ b) = earlier ++ (front ++ back) :: later := by
  obtain ⟨earlier', front', hparts, hall⟩ := exists_splitFrom_append hopen hclose depth a
  obtain ⟨rfl, heq⟩ := List.append_inj' (hparts.symm.trans ha) rfl
  obtain ⟨rfl, -⟩ := List.cons.inj heq
  exact hall b back later hb

theorem exists_join_concat (separator : Char) (parts : List (List Char)) (last : List Char) :
    ∃ before, join separator (parts ++ [last]) = before ++ last := by
  induction parts with
  | nil => exact ⟨[], rfl⟩
  | cons part parts ih =>
    obtain ⟨before, h⟩ := ih
    refine ⟨part ++ separator :: before, ?_⟩
    have hjoin : join separator (part :: (parts ++ [last])) =
        part ++ separator :: join separator (parts ++ [last]) := by
      cases parts <;> rfl
    rw [List.cons_append, hjoin, h, List.append_assoc, List.cons_append]

/-- The last part of a text ends as the text does. -/
theorem exists_eq_append_of_splitFrom {a : List Char}
    (h : splitFrom separator depth a = earlier ++ [front]) : ∃ before, a = before ++ front := by
  rw [← join_splitFrom separator depth a, h]
  exact exists_join_concat separator earlier front

/-- The first part of a text begins as the text does, if it is not empty. -/
theorem exists_eq_append_of_splitFrom_cons {b : List Char}
    (h : splitFrom separator depth b = back :: later) : ∃ after, b = back ++ after := by
  rw [← join_splitFrom separator depth b, h]
  cases later with
  | nil => exact ⟨[], (List.append_nil back).symm⟩
  | cons part parts => exact ⟨separator :: join separator (part :: parts), rfl⟩

/-! ## Comments in an entry -/

/-- A comment as it is written. -/
def comment (inner : List Char) : List Char := (Css.Lexeme.comment inner).text

theorem comment_eq (inner : List Char) : comment inner = '/' :: '*' :: (inner ++ ['*', '/']) := rfl

/-- What a comment holds states nothing between the two parts of an entry. -/
structure IsIdleIn (front inner back : List Char) : Prop where
  /-- No bound is stated across the place of the comment. -/
  uncut : ∀ outside within, front = outside ++ '(' :: within → ')' ∉ within →
    ∀ feature ∈ features, ∀ b, ¬ StatesBound feature b (within ++ back)
  /-- No bound is stated in the comment, or none that is the first of the entry. -/
  unbounded : ∀ feature ∈ features,
    (∃ b, IsFirstBound feature b front) ∨ ∀ b, ¬ IsFirstBound feature b inner
  /-- The type of the entry stands before the comment, or the comment has no word that names one and
  no parenthesis. -/
  untyped : SettlesType front ∨ IsWordless inner ∧ '(' ∉ inner

theorem findBound_eq_some_iff_of_mem_features (h : feature ∈ features) :
    findBound feature cs = some b ↔ IsFirstBound feature b cs := by
  obtain ⟨w, word, rfl, hw, -⟩ := exists_of_mem_features h
  exact findBound_eq_some_iff hw

theorem findBound_comment_append (hfeature : feature ∈ features) (inner back : List Char) :
    findBound feature (comment inner ++ back) =
      (findBound feature inner).or (findBound feature back) := by
  have hskip : ∀ c cs, c ≠ '(' → findBound feature (c :: cs) = findBound feature cs :=
    fun c cs => findBound_cons_of_ne feature cs
  rw [comment_eq, List.cons_append, List.cons_append, hskip _ _ (by decide), hskip _ _ (by decide),
    List.append_assoc, List.cons_append, List.singleton_append, findBound_append hfeature,
    hskip _ _ (by decide), hskip _ _ (by decide)]
  intro outside within _ hwithin
  exact read?_append_eq_none hfeature hwithin (Or.inr rfl) _

theorem IsIdleIn.findBound_eq (h : IsIdleIn front inner back) (hfeature : feature ∈ features) :
    findBound feature (front ++ (comment inner ++ back)) = findBound feature (front ++ back) := by
  have hplain : findBound feature (front ++ back) =
      (findBound feature front).or (findBound feature back) := by
    refine findBound_append hfeature fun outside within heq hwithin => ?_
    rw [Option.eq_none_iff_forall_ne_some]
    intro b hb
    exact h.uncut outside within heq hwithin feature hfeature b
      ((read?_eq_some_iff_of_mem_features hfeature).mp hb)
  have hcomment : findBound feature (front ++ (comment inner ++ back)) =
      (findBound feature front).or (findBound feature (comment inner ++ back)) :=
    findBound_append hfeature fun outside within _ hwithin =>
      read?_append_eq_none hfeature hwithin (Or.inl rfl) _
  rw [hplain, hcomment, findBound_comment_append hfeature]
  rcases h.unbounded feature hfeature with ⟨b, hb⟩ | hnone
  · rw [(findBound_eq_some_iff_of_mem_features hfeature).mpr hb, Option.some_or, Option.some_or]
  · have hinner : findBound feature inner = none := by
      rw [Option.eq_none_iff_forall_ne_some]
      exact fun b hb => hnone b ((findBound_eq_some_iff_of_mem_features hfeature).mp hb)
    rw [hinner, Option.none_or]

theorem IsIdleIn.mediaTypeOf_eq (h : IsIdleIn front inner back) (hapart : AreApart front back) :
    mediaTypeOf (front ++ (comment inner ++ back)) = mediaTypeOf (front ++ back) := by
  have hcomment : AreApart front (comment inner ++ back) := areApart_cons (by decide)
  rcases h.untyped with hsettled | ⟨hwordless, hopen⟩
  · exact hsettled.mediaTypeOf_append hcomment hapart
  · refine mediaTypeOf_append_of_isWordless ?_ (by simp [comment_eq, hopen]) hapart hcomment
    intro c hc
    simp only [comment_eq, List.mem_cons, List.mem_append, List.not_mem_nil, or_false] at hc
    rcases hc with rfl | rfl | hc | rfl | rfl
    · decide
    · decide
    · exact hwordless c hc
    · decide
    · decide

/-- An entry states the same condition without an idle comment. -/
theorem IsIdleIn.read_eq (h : IsIdleIn front inner back) (hapart : AreApart front back) :
    read (front ++ (comment inner ++ back)) = read (front ++ back) := by
  have hmin := h.findBound_eq (List.mem_cons_self : "min-width".toList ∈ features)
  have hmax := h.findBound_eq (List.mem_cons_of_mem _ List.mem_cons_self :
    "max-width".toList ∈ features)
  rw [read, read, hmin, hmax, h.mediaTypeOf_eq hapart]

/-! ## Comments in a list -/

/-- What a comment holds states nothing between the two parts of a list. -/
structure IsIdle (before inner after : List Char) : Prop where
  /-- The comment leaves as many parentheses open as there were before it. -/
  level : depthFrom (openDepth before) inner = openDepth before
  /-- No comma in the comment stands outside parentheses. -/
  undivided : IsUndividedFrom ',' (openDepth before) inner
  /-- The comment states nothing in the entry that it stands in, and it makes no entry that counts
  out of a blank one. -/
  entry : ∃ earlier front back later, split ',' before = earlier ++ [front] ∧
    splitFrom ',' (openDepth before) after = back :: later ∧ IsIdleIn front inner back ∧
    (allBlank (front ++ back) = false ∨ ∀ entry ∈ earlier ++ later, allBlank entry = true)

theorem read_of_allBlank (h : allBlank entry = true) : read entry = all :=
  have hpadded : IsPadded entry [] := ⟨entry, [], h, rfl, (List.append_nil entry).symm⟩
  (read_padded hpadded).trans rfl

/-- Entries state the same conditions with another one in the place of one of them, if the two state
the same. -/
theorem ofEntries_congr (hread : read entry' = read entry) (hentry' : allBlank entry' = false)
    (h : allBlank entry = false ∨ ∀ e ∈ earlier ++ later, allBlank e = true) :
    ofEntries (earlier ++ entry' :: later) = ofEntries (earlier ++ entry :: later) := by
  rw [ofEntries_of_exists ⟨entry', by simp, hentry'⟩]
  by_cases hentry : allBlank entry = true
  · obtain ⟨hearlier, hlater⟩ := List.forall_mem_append.mp (h.resolve_left (by simp [hentry]))
    have hnone : ∀ {es : List (List Char)}, (∀ e ∈ es, allBlank e = true) →
        es.filter (fun e => !allBlank e) = [] := fun hes =>
      List.filter_eq_nil_iff.mpr fun e he => by simp [hes e he]
    have hblank : (earlier ++ entry :: later).all allBlank = true :=
      List.all_eq_true.mpr (List.forall_mem_append.mpr
        ⟨hearlier, List.forall_mem_cons.mpr ⟨hentry, hlater⟩⟩)
    rw [ofEntries, if_pos hblank, List.filter_append, List.filter_cons_of_pos (by simp [hentry']),
      hnone hearlier, hnone hlater, List.nil_append, List.map_singleton, hread,
      read_of_allBlank hentry]
  · rw [ofEntries_of_exists ⟨entry, by simp, by simpa using hentry⟩]
    simp [List.filter_append, hentry', hentry, hread]

theorem isUndividedFrom_comment (hlevel : depthFrom depth inner = depth)
    (h : IsUndividedFrom ',' depth inner) :
    IsUndividedFrom ',' depth (comment inner) ∧ depthFrom depth (comment inner) = depth := by
  have hnest : ∀ c ∈ ['/', '*'], ∀ depth, nest depth c = depth :=
    fun c hc depth => by
      rcases List.mem_pair.mp hc with rfl | rfl <;> rfl
  have hslash := hnest '/' (by simp)
  have hstar := hnest '*' (by simp)
  constructor
  · rw [comment_eq, isUndividedFrom_cons, isUndividedFrom_cons, isUndividedFrom_append,
      isUndividedFrom_cons, isUndividedFrom_cons, hslash, hstar]
    exact ⟨by simp, by simp, h, by simp, by simp, isUndividedFrom_nil⟩
  · rw [comment_eq, depthFrom_cons, depthFrom_cons, hslash, hstar, depthFrom_append, hlevel,
      depthFrom_cons, depthFrom_cons, hslash, hstar, depthFrom_nil]

/-- Where no word reaches across a place in a list, none does in the entry of the place. -/
theorem areApart_of_splitFrom {before after : List Char}
    (hfront : split ',' before = earlier ++ [front])
    (hback : splitFrom ',' depth after = back :: later) (h : AreApart before after) :
    AreApart front back := by
  obtain ⟨outside, rfl⟩ := exists_eq_append_of_splitFrom hfront
  obtain ⟨behind, rfl⟩ := exists_eq_append_of_splitFrom_cons hback
  refine h.of_append.imp_right fun hstops c hc => hstops c ?_
  rw [List.head?_append, hc, Option.some_or]

/-- A list states the same conditions without an idle comment, if no word reaches across its
place. -/
theorem IsIdle.readList_comment {before after : List Char} (h : IsIdle before inner after)
    (hapart : AreApart before after) :
    readList (before ++ (comment inner ++ after)) = readList (before ++ after) := by
  obtain ⟨earlier, front, back, later, hfront, hback, hidle, hblank⟩ := h.entry
  have hopen : ',' ≠ '(' := by decide
  have hclose : ',' ≠ ')' := by decide
  obtain ⟨hundivided, hdepth⟩ := isUndividedFrom_comment h.level h.undivided
  have hplain : split ',' (before ++ after) = earlier ++ (front ++ back) :: later :=
    splitFrom_append_of_eq hopen hclose hfront hback
  have hwhole : splitFrom ',' (openDepth before) (comment inner) = [] ++ [comment inner] :=
    splitFrom_of_isUndividedFrom hopen hclose hundivided
  have hmiddle : splitFrom ',' (openDepth before) (comment inner ++ after) =
      (comment inner ++ back) :: later :=
    splitFrom_append_of_eq hopen hclose hwhole (hdepth.symm ▸ hback)
  have hcomment : split ',' (before ++ (comment inner ++ after)) =
      earlier ++ (front ++ (comment inner ++ back)) :: later :=
    splitFrom_append_of_eq hopen hclose hfront hmiddle
  rw [readList_eq, readList_eq, hplain, hcomment]
  exact ofEntries_congr (hidle.read_eq (areApart_of_splitFrom hfront hback hapart))
    (by simp [comment_eq, Blank.isBlank]) hblank

end Condition

end MediaQuery
