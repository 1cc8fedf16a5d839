import MediaQuery.Css.Sheet
import MediaQuery.Proofs.Condition.Comment
import MediaQuery.Proofs.Css.Stylesheet

/-!
# Comments in front of a block

The scanner passes over comments, so that a comment beside white space in front of a block changes
nothing about which block is found or what it holds. But the comment stays in the list that guards
the block, and the list is read as if there were no comments: what the comment holds is read with
the rest, and changes nothing if it is idle (`Condition.IsIdle`).

* `comments_guard_with_what_they_hold` — the law for every rule and every comment
-/

namespace MediaQuery

namespace Css

open Lexeme (textAll IsReading)

variable {inner before after : List Char}

/-- A media rule as it is written. -/
def ruleText (word prelude body : List Char) : String :=
  String.ofList (word ++ (prelude ++ '{' :: (body ++ ['}'])))

/-- Two texts stand before a block together, and a comment may be put between them: white space is
there, outside comments and strings. -/
structure IsGap (before after : List Char) : Prop where
  lexemes : ∃ a b, IsReading (a ++ b) ∧ textAll a = before ∧ textAll b = after ∧
    Lexeme.bare '{' ∉ a ++ b ∧ Lexeme.bare ';' ∉ a ++ b
  /-- The keyword ends before the first of them: no comment may be put behind it at once. -/
  follows : FollowsKeyword before
  spaced : (∃ c, before.getLast? = some c ∧ Ascii.isSpace c = true) ∨
    ∃ c, after.head? = some c ∧ Ascii.isSpace c = true

/-- In a text without slashes, quotes, braces and semicolons every place beside white space is a
gap, unless it is the first. -/
theorem isGap_of_plain
    (hplain : ∀ c ∈ before ++ after, c ≠ '/' ∧ c ≠ '{' ∧ c ≠ ';' ∧ Shield.isQuote c = false)
    (hfollows : FollowsKeyword before)
    (hspaced : (∃ c, before.getLast? = some c ∧ Ascii.isSpace c = true) ∨
      ∃ c, after.head? = some c ∧ Ascii.isSpace c = true) : IsGap before after := by
  refine ⟨⟨before.map .bare, after.map .bare, ?_, Lexeme.textAll_map_bare _,
    Lexeme.textAll_map_bare _, ?_, ?_⟩, hfollows, hspaced⟩
  all_goals rw [← List.map_append]
  · exact Lexeme.isReading_map_bare fun c hc => ⟨(hplain c hc).1, (hplain c hc).2.2.2⟩
  · simpa using fun hc => (hplain '{' (List.mem_append.mpr hc)).2.1 rfl
  · simpa using fun hc => (hplain ';' (List.mem_append.mpr hc)).2.2.1 rfl

/-- A text in which no comment ends may be all of a comment. -/
theorem isWhole_comment (h : ¬ commentEnd <:+: inner) : (Lexeme.comment inner).IsWhole := by
  intro hend
  rcases List.infix_concat_iff.mp hend with hsuffix | hinfix
  · obtain ⟨before, heq⟩ := hsuffix
    have hlast := congrArg List.getLast? heq
    simp [commentEnd] at hlast
  · exact h hinfix

/-- A comment between two lexemes leaves them what they are. -/
theorem isReading_comment {a b : List Lexeme} (h : ¬ commentEnd <:+: inner)
    (hread : IsReading (a ++ b)) : IsReading (a ++ .comment inner :: b) := by
  induction a with
  | nil => exact ⟨isWhole_comment h, by simp, hread⟩
  | cons l a ih =>
    rw [List.cons_append] at hread ⊢
    obtain ⟨hl, hslash, hrest⟩ := hread
    refine ⟨hl, fun hbare => ?_, ih hrest⟩
    have hnext := hslash hbare
    rw [Lexeme.textAll_append] at hnext ⊢
    cases ha : textAll a with
    | nil => simp [Lexeme.text]
    | cons c cs => rwa [ha] at hnext

namespace IsGap

variable (h : IsGap before after)

include h

theorem isPrelude : IsPrelude (before ++ after) := by
  obtain ⟨a, b, hread, rfl, rfl, hopen, hend⟩ := h.lexemes
  exact ⟨a ++ b, hread, Lexeme.textAll_append a b, hopen, hend⟩

theorem isPrelude_comment (hinner : ¬ commentEnd <:+: inner) :
    IsPrelude (before ++ (Condition.comment inner ++ after)) := by
  obtain ⟨a, b, hread, rfl, rfl, hopen, hend⟩ := h.lexemes
  rw [List.mem_append, not_or] at hopen hend
  refine ⟨a ++ .comment inner :: b, isReading_comment hinner hread, ?_, ?_, ?_⟩
  · rw [Lexeme.textAll_append, Lexeme.textAll_cons]
    rfl
  · simp [hopen]
  · simp [hend]

theorem followsKeyword_append (rest : List Char) : FollowsKeyword (before ++ rest) := by
  obtain ⟨c, more, rfl, hc⟩ := h.follows
  exact ⟨c, more ++ rest, rfl, hc⟩

theorem areApart : AreApart before after := by
  have hletter : ∀ {c}, Ascii.isSpace c = true → c.isAlpha = false := fun hc =>
    Blank.isAlpha_of_isBlank (Ascii.isBlank_of_isSpace hc)
  rcases h.spaced with ⟨c, hlast, hc⟩ | ⟨c, hhead, hc⟩
  · left
    intro d hd
    obtain rfl := Option.some.inj (hlast.symm.trans hd)
    exact hletter hc
  · right
    intro d hd
    obtain rfl := Option.some.inj (hhead.symm.trans hd)
    exact hletter hc

end IsGap

end Css

namespace MediaBlock

open Css (IsKeyword FollowsKeyword IsPrelude IsBody IsGap ruleText commentEnd directory)

/-- A sheet that holds one media rule is its block, guarded by what stands before it. -/
theorem ofSheet_ruleText {word prelude body : List Char} (href : String) (media : Option String)
    (hword : IsKeyword word) (hfollows : FollowsKeyword prelude) (hprelude : IsPrelude prelude)
    (hbody : IsBody body) :
    ofSheet (ruleText word prelude body) href media =
      [guarded prelude body (directory href.toList)] := by
  unfold ofSheet ruleText
  rw [String.toList_ofList, Css.mediaBlocks_rule hword hfollows hprelude hbody]
  rfl

/-- Put a comment between two texts that stand before the block of a media rule together, beside
white space outside comments and strings. The rule keeps its block, and the block what it holds, but
the list that guards it is read with the comment in it. The comment makes no difference if it is
idle. -/
theorem comments_guard_with_what_they_hold {word before inner after body : List Char}
    (href : String) (media : Option String) (hword : IsKeyword word) (hgap : IsGap before after)
    (hinner : ¬ commentEnd <:+: inner) (hbody : IsBody body) :
    ofSheet (ruleText word (before ++ after) body) href media =
        [guarded (before ++ after) body (directory href.toList)] ∧
      ofSheet (ruleText word (before ++ (Condition.comment inner ++ after)) body) href media =
        [guarded (before ++ (Condition.comment inner ++ after)) body (directory href.toList)] ∧
      (Condition.IsIdle before inner after →
        ofSheet (ruleText word (before ++ (Condition.comment inner ++ after)) body) href media =
          ofSheet (ruleText word (before ++ after) body) href media) := by
  have hplain := ofSheet_ruleText href media hword (hgap.followsKeyword_append _) hgap.isPrelude
    hbody
  have hcomment := ofSheet_ruleText href media hword (hgap.followsKeyword_append _)
    (hgap.isPrelude_comment hinner) hbody
  refine ⟨hplain, hcomment, fun hidle => ?_⟩
  rw [hplain, hcomment, guarded, guarded, hidle.readList_comment hgap.areApart]

/-- Behind the word that names the type, a comment may hold words and parentheses. -/
theorem comment_behind_the_type_is_idle :
    IsGap " screen ".toList "and (min-width:1px)".toList ∧
      Condition.IsIdle " screen ".toList " big (x, y) ".toList "and (min-width:1px)".toList ∧
      ofSheet "@Media screen /* big (x, y) */and (min-width:1px)\x7ba\x7d" "" none =
        ofSheet "@Media screen and (min-width:1px)\x7ba\x7d" "" none := by
  have hword : IsKeyword "@Media".toList := by decide +kernel
  have hgap : IsGap " screen ".toList "and (min-width:1px)".toList :=
    Css.isGap_of_plain (forall_mem_of_all (by decide +kernel))
      ⟨' ', "screen ".toList, by decide +kernel, Or.inl rfl⟩ (Or.inl ⟨' ', by decide +kernel, rfl⟩)
  have hbody : IsBody ['a'] :=
    ⟨[.bare 'a'], ⟨rfl, by simp, trivial⟩, rfl, .lexeme (by simp) (by simp) .nil⟩
  have hidle : Condition.IsIdle " screen ".toList " big (x, y) ".toList
      "and (min-width:1px)".toList := by
    have hparts : Condition.splitFrom ',' 0 " big (x, y) ".toList = [" big (x, y) ".toList] := by
      decide +kernel
    refine ⟨by decide +kernel, ?_, [], " screen ".toList, "and (min-width:1px)".toList, [],
      by decide +kernel, by decide +kernel, ⟨?_, ?_, ?_⟩, Or.inl (by decide +kernel)⟩
    · exact (Condition.undivided_of_splitFrom (by decide) (by decide) hparts).1
    · intro outside within heq
      have hmem : '(' ∈ " screen ".toList := by simp [heq]
      exact absurd hmem (by decide +kernel)
    · refine fun feature hfeature => Or.inr fun b hb => ?_
      have hnone : ∀ feature ∈ features, (findBound feature " big (x, y) ".toList).isNone = true :=
        List.all_eq_true.mp (by decide +kernel)
      have hfound := hnone feature hfeature
      rw [(Condition.findBound_eq_some_iff_of_mem_features hfeature).mpr hb] at hfound
      exact Bool.noConfusion hfound
    · refine Or.inl (Or.inr ⟨"screen".toList, [' '], ⟨[' '], by decide +kernel,
        forall_mem_of_all (by decide), by decide +kernel, forall_mem_of_all (by decide +kernel),
        stopsAt_cons (by decide)⟩, fun honly => ?_⟩)
      exact absurd honly (by decide +kernel : ¬ Ascii.sameLetters _ _ = true)
  refine ⟨hgap, hidle, ?_⟩
  exact (comments_guard_with_what_they_hold "" none hword hgap (by decide +kernel) hbody).2.2 hidle

/-- A comma in a comment makes two conditions out of one, a word in a comment is the media type, a
width in a comment is a bound, a parenthesis that a comment opens keeps a list in one piece, and a
rule is not found whose keyword a comment follows at once. -/
theorem comments_are_read_as_conditions :
    (IsKeyword Css.keyword ∧ IsGap " print ".toList [] ∧ ¬ commentEnd <:+: [','] ∧ IsBody ['a']) ∧
      (ofSheet "@media print /*,*/\x7ba\x7d" "" none).map (·.conditions.length) = [2] ∧
      (ofSheet "@media print \x7ba\x7d" "" none).map (·.conditions.length) = [1] ∧
      (ofSheet "@media /*tv*/ print\x7ba\x7d" "" none).map (·.conditions.map (·.mediaType)) =
        [["tv"]] ∧
      (ofSheet "@media  print\x7ba\x7d" "" none).map (·.conditions.map (·.mediaType)) =
        [["print"]] ∧
      (ofSheet "@media print /*(min-width:9px)*/\x7ba\x7d" "" none).map
        (·.conditions.map (·.hasConstraint)) = [[true]] ∧
      (ofSheet "@media print \x7ba\x7d" "" none).map (·.conditions.map (·.hasConstraint)) =
        [[false]] ∧
      (ofSheet "@media tv /*(*/, print\x7ba\x7d" "" none).map (·.conditions.length) = [1] ∧
      (ofSheet "@media tv , print\x7ba\x7d" "" none).map (·.conditions.length) = [2] ∧
      (ofSheet "@media/**/ print\x7ba\x7d" "" none).length = 0 ∧
      (ofSheet "@media print\x7ba\x7d" "" none).length = 1 := by
  have hgap : IsGap " print ".toList [] :=
    Css.isGap_of_plain (forall_mem_of_all (by decide +kernel))
      ⟨' ', "print ".toList, by decide +kernel, Or.inl rfl⟩ (Or.inl ⟨' ', by decide +kernel, rfl⟩)
  have hbody : IsBody ['a'] :=
    ⟨[.bare 'a'], ⟨rfl, by simp, trivial⟩, rfl, .lexeme (by simp) (by simp) .nil⟩
  refine ⟨⟨by decide +kernel, hgap, by decide +kernel, hbody⟩, ?_⟩
  decide +kernel

end MediaBlock

end MediaQuery
