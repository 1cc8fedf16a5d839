import MediaQuery.Proofs.Css.Stylesheet

/-!
# Where blocks lie

Whatever a text is made of, a block that is found in it belongs to a media rule that stands at the
top level of the text: what comes before the rule closes its comments, its strings and its braces,
apart from closing braces that match nothing. The rules lie one behind the other (`LieBehind`).

A text need not be a row of lexemes, but it is one as far as its last comment or string that is left
open, and no block ends behind that point (`exists_reading`). Along a row of lexemes every phase of
the scanner says how the lexemes so far are to be taken (`Stand`), and one more lexeme keeps it so.

* `blocks_lie_at_top_level` — the blocks of any text
* `first_rule_is_found` — the first media rule at the top level of a text is not missed
-/

namespace MediaQuery.Css

open Lexeme (textAll IsReading)

/-! ## Braces -/

/-- Lexemes in which every opening brace has its partner; a closing one may be without. -/
inductive Settled : List Lexeme → Prop where
  | nil : Settled []
  | lexeme {l : Lexeme} {ls : List Lexeme} (hopen : l ≠ .bare '{') (h : Settled ls) :
    Settled (l :: ls)
  | block {inner ls : List Lexeme} (hinner : Balanced inner) (h : Settled ls) :
    Settled (.bare '{' :: inner ++ .bare '}' :: ls)

/-- Lexemes in which every brace has its partner, but for some opening ones. -/
inductive Unclosed : (depth : Nat) → List Lexeme → Prop where
  | balanced {ls : List Lexeme} (h : Balanced ls) : Unclosed 0 ls
  | brace {depth : Nat} {ls inner : List Lexeme} (h : Unclosed depth ls) (hinner : Balanced inner) :
    Unclosed (depth + 1) (ls ++ .bare '{' :: inner)

section Braces

variable {l : Lexeme} {ls a b : List Lexeme} {depth : Nat}

theorem Balanced.append (ha : Balanced a) (hb : Balanced b) : Balanced (a ++ b) := by
  induction ha with
  | nil => exact hb
  | lexeme hopen hclose _ ih => exact .lexeme hopen hclose ih
  | block hinner _ _ ih =>
    rw [List.append_assoc]
    exact .block hinner ih

theorem Settled.append (ha : Settled a) (hb : Settled b) : Settled (a ++ b) := by
  induction ha with
  | nil => exact hb
  | lexeme hopen _ ih => exact .lexeme hopen ih
  | block hinner _ ih =>
    rw [List.append_assoc]
    exact .block hinner ih

theorem Balanced.settled (h : Balanced ls) : Settled ls := by
  induction h with
  | nil => exact .nil
  | lexeme hopen _ _ ih => exact .lexeme hopen ih
  | block hinner _ _ ih => exact .block hinner ih

theorem settled_of_not_mem (h : .bare '{' ∉ ls) : Settled ls := by
  induction ls with
  | nil => exact .nil
  | cons l ls ih =>
    rw [List.mem_cons, not_or] at h
    exact .lexeme (Ne.symm h.1) (ih h.2)

/-- A closing brace behind settled lexemes is ignored. -/
theorem Settled.stray (h : Settled ls) : Settled (ls ++ [.bare '}']) :=
  h.append (.lexeme (by simp) .nil)

theorem Unclosed.balanced_of_zero (h : Unclosed 0 ls) : Balanced ls := by
  cases h with
  | balanced h => exact h

theorem Unclosed.append (h : Unclosed depth a) (hb : Balanced b) : Unclosed depth (a ++ b) := by
  cases h with
  | balanced ha => exact .balanced (ha.append hb)
  | brace h hinner =>
    rw [List.append_assoc, List.cons_append]
    exact .brace h (hinner.append hb)

theorem Unclosed.concat (h : Unclosed depth ls) (hopen : l ≠ .bare '{') (hclose : l ≠ .bare '}') :
    Unclosed depth (ls ++ [l]) :=
  h.append (.lexeme hopen hclose .nil)

theorem Unclosed.opened (h : Unclosed depth ls) : Unclosed (depth + 1) (ls ++ [.bare '{']) :=
  .brace h .nil

/-- A closing brace is the partner of the last brace that is open. -/
theorem Unclosed.closed (h : Unclosed (depth + 1) ls) : Unclosed depth (ls ++ [.bare '}']) := by
  cases h with
  | brace h hinner =>
    rw [List.append_assoc]
    exact h.append (.block hinner .nil)

end Braces

/-! ## Rules in a text -/

/-- What stands before the top level of a text: its comments and strings are closed, and so are the
braces that open in it. -/
def IsTopLevel (cs : List Char) : Prop := ∃ ls, IsReading ls ∧ textAll ls = cs ∧ Settled ls

/-- A block as it is written, from behind the keyword on. -/
def RawBlock.text (b : RawBlock) : List Char := b.prelude ++ '{' :: (b.body ++ ['}'])

/-- A keyword and a block behind a text make up a media rule at the top level. -/
structure IsRuleAt (before word : List Char) (block : RawBlock) : Prop where
  isTopLevel : IsTopLevel before
  isKeyword : IsKeyword word
  followsKeyword : FollowsKeyword block.prelude
  isPrelude : IsPrelude block.prelude
  isBody : IsBody block.body

/-- Blocks are those of media rules at the top level of a text that lie one behind the other, and
all of them behind a place. -/
inductive LieBehind (text : List Char) : (place : List Char) → List RawBlock → Prop where
  | nil {place : List Char} (h : place <+: text) : LieBehind text place []
  | rule {place before word : List Char} {block : RawBlock} {blocks : List RawBlock}
    (hplace : place <+: before) (hrule : IsRuleAt before word block)
    (h : LieBehind text (before ++ (word ++ block.text)) blocks) :
    LieBehind text place (block :: blocks)

/-! ## What a phase says -/

/-- A media rule begins behind some lexemes, at their top level and no earlier than at a place. -/
structure Begins (place : List Char) (before : List Lexeme) (word : List Char) : Prop where
  place_le : place <+: textAll before
  settled : Settled before
  isKeyword : IsKeyword word

/-- How the lexemes on the way to a phase are to be taken, if the last block ended at a place. -/
inductive Stand (place : List Char) (done : List Lexeme) (ahead : List Char) : Phase → Prop where
  | outside {before inner : List Lexeme} {depth : Nat} (hdone : done = before ++ inner)
    (hplace : place <+: textAll before) (hbefore : Settled before) (h : Unclosed depth inner) :
    Stand place done ahead (.outside depth)
  | keyword {before read : List Lexeme} {left follow : List Char} {start : Nat}
    (hdone : done = before ++ read) (hahead : ahead = left ++ follow)
    (hrule : Begins place before (textAll read ++ left)) (hfollows : FollowsKeyword follow)
    (hne : left ≠ []) : Stand place done ahead (.keyword start left.length)
  | prelude {before word read : List Lexeme} {start : Nat} {reversed : List Char}
    (hdone : done = before ++ (word ++ read)) (hrule : Begins place before (textAll word))
    (hread : reversed.reverse = textAll read) (hopen : .bare '{' ∉ read) (hend : .bare ';' ∉ read)
    (hfollows : FollowsKeyword (textAll read ++ ahead)) :
    Stand place done ahead (.prelude start reversed)
  | body {before word front read : List Lexeme} {start depth : Nat} {p reversed : List Char}
    (hdone : done = before ++ (word ++ (front ++ .bare '{' :: read)))
    (hrule : Begins place before (textAll word)) (hfront : p = textAll front)
    (hopen : .bare '{' ∉ front) (hend : .bare ';' ∉ front) (hfollows : FollowsKeyword p)
    (hread : reversed.reverse = textAll read) (h : Unclosed depth read) :
    Stand place done ahead (.body start p depth reversed)

theorem Lexeme.prefix_textAll_append {place : List Char} {a b : List Lexeme}
    (h : place <+: textAll a) : place <+: textAll (a ++ b) := by
  rw [textAll_append]
  exact h.trans (List.prefix_append _ _)

theorem bare_ne {c d : Char} (h : c ≠ d) : Lexeme.bare c ≠ .bare d := fun heq =>
  h (Lexeme.bare.inj heq)

/-- What may follow the keyword does so whatever comes behind it. -/
theorem FollowsKeyword.of_append {cs rest : List Char} {d : Char}
    (h : FollowsKeyword (cs ++ d :: rest)) (hspace : Ascii.isSpace d = false) (hopen : d ≠ '(') :
    FollowsKeyword cs := by
  obtain ⟨c, behind, heq, hc⟩ := h
  cases cs with
  | nil =>
    obtain ⟨rfl, -⟩ := List.cons.inj heq
    simp [hspace, hopen] at hc
  | cons e cs =>
    obtain ⟨rfl, -⟩ := List.cons.inj heq
    exact ⟨e, cs, rfl, hc⟩

/-- Neither a keyword nor what may follow it opens a brace. -/
theorem Begins.settled_append {place : List Char} {before word front : List Lexeme}
    (h : Begins place before (textAll word)) (hopen : .bare '{' ∉ front) :
    Settled (before ++ (word ++ front)) := by
  refine h.settled.append (settled_of_not_mem ?_)
  rw [List.mem_append, not_or]
  exact ⟨fun hmem => h.isKeyword.not_mem (by decide +kernel) (Lexeme.mem_textAll hmem), hopen⟩

namespace Stand

variable {place ahead : List Char} {done : List Lexeme} {phase next : Phase} {position : Nat}
  {l : Lexeme} {c : Char}

/-- Every phase leaves the last block behind. -/
theorem place_le (h : Stand place done ahead phase) : place <+: textAll done := by
  cases h with
  | outside hdone hplace =>
    rw [hdone]
    exact Lexeme.prefix_textAll_append hplace
  | keyword hdone _ hrule | prelude hdone hrule | body hdone hrule =>
    rw [hdone]
    exact Lexeme.prefix_textAll_append hrule.place_le

/-- Behind settled lexemes the scanner may be outside of everything. -/
theorem of_settled (hplace : place <+: textAll done) (h : Settled done) :
    Stand place done ahead (.outside 0) :=
  .outside (List.append_nil done).symm hplace h (.balanced .nil)

/-- A lexeme that opens a comment or a string is no part of a keyword. -/
theorem bare_of_isKeyword {read left more : List Char} (hword : IsKeyword (read ++ left))
    (hne : left ≠ []) (hl : l.IsWhole) (htext : l.text ++ ahead = left ++ more) :
    ∃ c, l = .bare c := by
  obtain ⟨a, left, rfl⟩ := List.exists_cons_of_ne_nil hne
  have hmem : a ∈ read ++ a :: left := by simp
  cases l with
  | bare c => exact ⟨c, rfl⟩
  | comment inner =>
    obtain ⟨rfl, -⟩ := List.cons.inj htext
    exact absurd hmem (hword.not_mem (by decide +kernel))
  | quoted quote inner =>
    obtain ⟨rfl, -⟩ := List.cons.inj htext
    have hquote : quote = '"' ∨ quote = '\'' := by simpa [Shield.isQuote] using hl.1
    rcases hquote with rfl | rfl <;> exact absurd hmem (hword.not_mem (by decide +kernel))

/-- Comments and strings change nothing. -/
theorem kept (h : Stand place done (l.text ++ ahead) phase) (hl : l.IsWhole)
    (hbare : ∀ c, l ≠ .bare c) : Stand place (done ++ [l]) ahead (phase.keepAll l.text) := by
  cases h with
  | outside hdone hplace hbefore h =>
    rw [Phase.keepAll_outside]
    exact .outside (by rw [hdone, List.append_assoc]) hplace hbefore
      (h.concat (hbare '{') (hbare '}'))
  | keyword hdone hahead hrule hfollows hne =>
    obtain ⟨c, hc⟩ := bare_of_isKeyword hrule.isKeyword hne hl hahead
    exact absurd hc (hbare c)
  | prelude hdone hrule hread hopen hend hfollows =>
    rw [Phase.keepAll_prelude]
    refine .prelude (by rw [hdone, List.append_assoc, List.append_assoc]) hrule (by simp [hread])
      ?_ ?_ (by simpa using hfollows)
    · simpa [hopen] using (hbare '{').symm
    · simpa [hend] using (hbare ';').symm
  | body hdone hrule hfront hopen hend hfollows hread h =>
    rw [Phase.keepAll_body]
    exact .body (by simp [hdone]) hrule hfront hopen hend hfollows (by simp [hread])
      (h.concat (hbare '{') (hbare '}'))

theorem step_outside {depth : Nat} (h : Stand place done (c :: ahead) (.outside depth))
    (hstep : (Phase.outside depth).step position c (c :: ahead) = (next, none)) :
    Stand place (done ++ [.bare c]) ahead next := by
  have hle := h.place_le
  cases h with
  | @outside before inner _ hdone hplace hbefore h =>
    have hdone' : done ++ [.bare c] = before ++ (inner ++ [.bare c]) := by
      rw [hdone, List.append_assoc]
    simp only [Phase.step] at hstep
    split at hstep
    · next hc =>
      obtain rfl := (Prod.mk.inj hstep).1
      obtain rfl := beq_iff_eq.mp hc
      exact .outside hdone' hplace hbefore h.opened
    split at hstep
    · next hc =>
      obtain rfl := (Prod.mk.inj hstep).1
      obtain rfl := beq_iff_eq.mp hc
      -- what stands before a brace that closes nothing is settled, and a new part begins behind it
      cases depth with
      | zero =>
        have hsettled := (hbefore.append h.balanced_of_zero.settled).stray
        rw [← hdone] at hsettled
        exact of_settled (Lexeme.prefix_textAll_append hle) hsettled
      | succ depth => exact .outside hdone' hplace hbefore h.closed
    split at hstep
    · next hstart =>
      obtain rfl := (Prod.mk.inj hstep).1
      simp only [Bool.and_eq_true, beq_iff_eq] at hstart
      obtain ⟨⟨rfl, rfl⟩, hstart⟩ := hstart
      -- a media rule begins here, and nothing is open in front of it
      obtain ⟨word, follow, heq, hword, hfollows⟩ := startsRule_iff.mp hstart
      obtain ⟨letters, rfl, hlength⟩ := hword.exists_letters
      have hsettled := hbefore.append h.balanced_of_zero.settled
      rw [← hdone] at hsettled
      rw [← hlength]
      exact .keyword rfl (List.cons.inj heq).2 ⟨hle, hsettled, hword⟩ hfollows
        (List.ne_nil_of_length_eq_add_one hlength)
    · next hopen hclose _ =>
      obtain rfl := (Prod.mk.inj hstep).1
      exact .outside hdone' hplace hbefore
        (h.concat (bare_ne (by simpa using hopen)) (bare_ne (by simpa using hclose)))

theorem step_keyword {start left : Nat} (h : Stand place done (c :: ahead) (.keyword start left)) :
    Stand place (done ++ [.bare c]) ahead ((Phase.keyword start left).keep c) := by
  cases h with
  | @keyword before read left follow _ hdone hahead hrule hfollows hne =>
    obtain ⟨a, left, rfl⟩ := List.exists_cons_of_ne_nil hne
    obtain ⟨rfl, rfl⟩ := List.cons.inj hahead
    have hdone' : done ++ [.bare c] = before ++ (read ++ [.bare c]) := by
      rw [hdone, List.append_assoc]
    have hrule' : Begins place before (textAll (read ++ [.bare c]) ++ left) := by
      simpa [Lexeme.text] using hrule
    cases left with
    | nil =>
      rw [List.append_nil] at hrule'
      have hdone'' : done ++ [.bare c] = before ++ ((read ++ [.bare c]) ++ []) := by
        rw [hdone', List.append_nil]
      exact .prelude hdone'' hrule' rfl (by simp) (by simp) hfollows
    | cons b left => exact .keyword hdone' rfl hrule' hfollows (by simp)

theorem step_prelude {start : Nat} {reversed : List Char}
    (h : Stand place done (c :: ahead) (.prelude start reversed))
    (hstep : (Phase.prelude start reversed).step position c (c :: ahead) = (next, none)) :
    Stand place (done ++ [.bare c]) ahead next := by
  have hle := h.place_le
  cases h with
  | @prelude before word read _ _ hdone hrule hread hopen hend hfollows =>
    have hdone' : done ++ [.bare c] = before ++ (word ++ (read ++ [.bare c])) := by
      rw [hdone]
      simp
    simp only [Phase.step] at hstep
    split at hstep
    · next hc =>
      obtain rfl := (Prod.mk.inj hstep).1
      obtain rfl := beq_iff_eq.mp hc
      have hfollows' := hfollows.of_append (by decide) (by decide)
      rw [← hread] at hfollows'
      exact .body hdone' hrule hread hopen hend hfollows' rfl (.balanced .nil)
    split at hstep
    · next hc =>
      obtain rfl := (Prod.mk.inj hstep).1
      obtain rfl := beq_iff_eq.mp hc
      -- a rule without a block opens nothing, so that all up to its semicolon is settled
      have hopen' : .bare '{' ∉ read ++ [.bare ';'] := by simp [hopen]
      have hsettled := hrule.settled_append hopen'
      rw [← hdone'] at hsettled
      exact of_settled (Lexeme.prefix_textAll_append hle) hsettled
    · next hbrace hsemicolon =>
      obtain rfl := (Prod.mk.inj hstep).1
      have hne : '{' ≠ c := Ne.symm (by simpa using hbrace)
      have hne' : ';' ≠ c := Ne.symm (by simpa using hsemicolon)
      exact .prelude hdone' hrule (by simp [hread, Lexeme.text]) (by simp [hopen, hne])
        (by simp [hend, hne']) (by simpa [Lexeme.text] using hfollows)

theorem step_body {start depth : Nat} {p reversed : List Char}
    (h : Stand place done (c :: ahead) (.body start p depth reversed))
    (hstep : (Phase.body start p depth reversed).step position c (c :: ahead) = (next, none)) :
    Stand place (done ++ [.bare c]) ahead next := by
  cases h with
  | @body before word front read _ _ _ _ hdone hrule hfront hopen hend hfollows hread h =>
    have hdone' : done ++ [.bare c] =
        before ++ (word ++ (front ++ .bare '{' :: (read ++ [.bare c]))) := by
      rw [hdone]
      simp
    have hread' : (c :: reversed).reverse = textAll (read ++ [.bare c]) := by
      simp [hread, Lexeme.text]
    simp only [Phase.step] at hstep
    split at hstep
    · next hc =>
      obtain rfl := (Prod.mk.inj hstep).1
      obtain rfl := beq_iff_eq.mp hc
      exact .body hdone' hrule hfront hopen hend hfollows hread' h.opened
    split at hstep
    · next hc =>
      obtain rfl := beq_iff_eq.mp hc
      cases depth with
      | zero => exact absurd hstep (by simp)
      | succ depth =>
        obtain rfl := (Prod.mk.inj hstep).1
        exact .body hdone' hrule hfront hopen hend hfollows hread' h.closed
    · next hbrace hclose =>
      obtain rfl := (Prod.mk.inj hstep).1
      exact .body hdone' hrule hfront hopen hend hfollows hread'
        (h.concat (bare_ne (by simpa using hbrace)) (bare_ne (by simpa using hclose)))

/-- One more character that stands for itself, and completes no block. -/
theorem step (h : Stand place done (c :: ahead) phase)
    (hstep : phase.step position c (c :: ahead) = (next, none)) :
    Stand place (done ++ [.bare c]) ahead next := by
  cases phase with
  | outside => exact step_outside h hstep
  | keyword =>
    obtain rfl := (Prod.mk.inj hstep).1
    exact step_keyword h
  | prelude => exact step_prelude h hstep
  | body => exact step_body h hstep

/-- A character that completes a block ends a media rule at the top level. -/
theorem complete {block : RawBlock} (h : Stand place done (c :: ahead) phase)
    (hreading : IsReading (done ++ [.bare c]))
    (hstep : phase.step position c (c :: ahead) = (next, some block)) :
    ∃ before word, place <+: before ∧ IsRuleAt before word block ∧
      textAll (done ++ [.bare c]) = before ++ (word ++ block.text) ∧
      Stand (textAll (done ++ [.bare c])) (done ++ [.bare c]) ahead next := by
  obtain ⟨start, p, reversed, rfl, rfl, rfl, rfl⟩ := Phase.exists_of_step_eq_some hstep
  cases h with
  | @body before word front read _ _ _ _ hdone hrule hfront hopen hend hfollows hread h =>
    have hbalanced := h.balanced_of_zero
    have hdone' : done ++ [.bare '}'] =
        before ++ (word ++ (front ++ (.bare '{' :: read ++ [.bare '}']))) := by
      rw [hdone]
      simp
    have htext : textAll (done ++ [.bare '}']) =
        textAll before ++ (textAll word ++ RawBlock.text ⟨p, reversed.reverse⟩) := by
      rw [hdone', hread, hfront]
      simp [RawBlock.text, Lexeme.text]
    have hsettled : Settled (done ++ [.bare '}']) := by
      have hblock := (hrule.settled_append hopen).append (.block hbalanced .nil)
      rw [hdone']
      simpa using hblock
    rw [hdone'] at hreading
    -- each part of the rule is a reading by itself
    obtain ⟨hbefore, hreading⟩ := hreading.of_append
    obtain ⟨-, hreading⟩ := hreading.of_append
    obtain ⟨hfront', -, -, hreading⟩ := hreading.of_append
    obtain ⟨hread', -⟩ := hreading.of_append
    refine ⟨textAll before, textAll word, hrule.place_le, ?_, htext,
      of_settled (List.prefix_refl _) hsettled⟩
    exact
      { isTopLevel := ⟨before, hbefore, rfl, hrule.settled⟩
        isKeyword := hrule.isKeyword
        followsKeyword := hfollows
        isPrelude := ⟨front, hfront', hfront.symm, hopen, hend⟩
        isBody := ⟨read, hread', hread.symm, hbalanced⟩ }

end Stand

/-! ## Texts that end in a comment or a string -/

/-- A reader in a state does not come outside any more behind the first character of a text. -/
def Shield.Stays (s : Shield) : List Char → Prop
  | [] => True
  | c :: cs => (s.step c).isBare = false ∧ (s.step c).Hides cs

section Tail

variable {s : Shield} {cs : List Char}

/-- A reader comes outside for the last time somewhere, or never does. -/
theorem Shield.exists_last_bare (s : Shield) (cs : List Char) :
    s.isBare = false ∧ s.Hides cs ∨
      ∃ a b, cs = a ++ b ∧ (s.run a).isBare = true ∧ (s.run a).Stays b := by
  induction cs generalizing s with
  | nil =>
    cases hs : s.isBare with
    | false => exact Or.inl ⟨rfl, trivial⟩
    | true => exact Or.inr ⟨[], [], rfl, hs, trivial⟩
  | cons c cs ih =>
    rcases ih (s.step c) with ⟨hnext, hcs⟩ | ⟨a, b, rfl, ha, hb⟩
    · cases hs : s.isBare with
      | false => exact Or.inl ⟨rfl, hs, hcs⟩
      | true => exact Or.inr ⟨[], c :: cs, rfl, hs, hnext, hcs⟩
    · exact Or.inr ⟨c :: a, b, rfl, ha, hb⟩

/-- A text is a row of lexemes up to a comment or a string that it leaves open. -/
theorem exists_reading (cs : List Char) :
    ∃ ls rest, cs = textAll ls ++ rest ∧ IsReading ls ∧
      (Shield.plain.run (textAll ls)).Stays rest := by
  rcases Shield.exists_last_bare .plain cs with ⟨hplain, -⟩ | ⟨a, b, rfl, ha, hb⟩
  · exact absurd hplain (by decide)
  · obtain ⟨ls, hls, rfl⟩ := closed_iff.mp ha
    exact ⟨ls, b, rfl, hls, hb⟩

/-- Nothing is completed in a comment or a string that is left open. -/
theorem scanFrom_of_stays (position : Nat) (phase : Phase) (hs : s.isBare = true)
    (h : s.Stays cs) : (scanFrom position phase s cs).1 = [] := by
  cases cs with
  | nil => rfl
  | cons c cs =>
    have hmark : c ∉ Phase.marks := by
      intro hc
      have hopen := h.1
      rw [step_eq_plain hs hc] at hopen
      exact absurd hopen (by decide)
    rw [scanFrom_bare hs (Phase.step_of_not_mem_marks hmark), ← List.append_nil cs,
      scanFrom_of_hides _ h.2]
    rfl

end Tail

/-! ## Whole texts -/

theorem Shield.IsReady.congr {s : Shield} {a b b' : List Char} (ha : a ≠ [])
    (h : s.IsReady (a ++ b)) : s.IsReady (a ++ b') := by
  obtain ⟨c, a, rfl⟩ := List.exists_cons_of_ne_nil ha
  exact h

/-- From a phase on, the blocks of a text lie behind the one before. -/
theorem lieBehind_scanFrom {place rest : List Char} {s : Shield} {ls : List Lexeme} :
    ∀ {done : List Lexeme} {phase : Phase} {position : Nat}, IsReading (done ++ ls) →
      s.IsReady (textAll ls) → (s.run (textAll ls)).Stays rest →
      Stand place done (textAll ls ++ rest) phase →
      LieBehind (textAll (done ++ ls) ++ rest) place
        (scanFrom position phase s (textAll ls ++ rest)).1 := by
  induction ls generalizing place s with
  | nil =>
    intro done phase position _ hs hrest h
    rw [List.append_nil]
    have hnone := scanFrom_of_stays position phase hs.isBare hrest
    rw [Lexeme.textAll_nil, List.nil_append, hnone]
    exact .nil (h.place_le.trans (List.prefix_append _ _))
  | cons l ls ih =>
    intro done phase position hreading hs hrest h
    obtain ⟨hl, hslash, -⟩ := hreading.of_append.2
    rw [Lexeme.textAll_cons] at hs hrest h
    rw [Shield.run_append] at hrest
    rw [List.append_assoc] at h
    have hready := Lexeme.isReady_run_text hs hl hslash
    have hs' : s.IsReady (l.text ++ (textAll ls ++ rest)) := hs.congr l.text_ne_nil
    rw [List.append_cons] at hreading
    rw [Lexeme.textAll_cons, List.append_assoc, List.append_cons done]
    -- only a character outside of comments and strings can complete a block
    by_cases hbare : ∃ c, l = .bare c
    · obtain ⟨c, rfl⟩ := hbare
      cases hstep : phase.step position c (c :: (textAll ls ++ rest)) with
      | mk next completed =>
        cases completed with
        | none =>
          have hscan := scanFrom_bare hs.isBare hstep
          exact hscan ▸ ih hreading hready hrest (h.step hstep)
        | some block =>
          obtain ⟨before, word, hplace, hrule, htext, h'⟩ := h.complete hreading.of_append.1 hstep
          have hscan := scanFrom_completed hs.isBare hstep
          have hlater : LieBehind _ _ (scanFrom (position + c.utf8Size) next _ _).1 :=
            ih hreading hready hrest h'
          rw [htext] at hlater
          exact hscan ▸ .rule hplace hrule hlater
    · obtain ⟨position', hscan⟩ := scanFrom_kept position (not_exists.mp hbare) hl hs'
      rw [hscan]
      exact ih hreading hready hrest (h.kept hl (not_exists.mp hbare))

/-- The blocks that are found in a text, whatever it is made of, are those of media rules at its top
level, in the order in which these stand there one behind the other. -/
theorem blocks_lie_at_top_level (text : List Char) : LieBehind text [] (mediaBlocks text) := by
  obtain ⟨ls, rest, rfl, hls, hrest⟩ := exists_reading text
  have hstart : Stand [] [] (textAll ls ++ rest) (.outside 0) :=
    .of_settled List.nil_prefix .nil
  have hls' : IsReading ([] ++ ls) := hls
  exact lieBehind_scanFrom hls' (Shield.isReady_plain _) hrest hstart

/-- A brace that matches nothing, a keyword in a string, and one in a comment that is left open. -/
example : mediaBlocks "\x7d'@media x\x7b' @MEDIA y\x7ba\x7b\x7d\x7d/*@media z\x7b\x7d".toList =
    [⟨" y".toList, "a\x7b\x7d".toList⟩] := by decide +kernel

/-! ## The first rule -/

/-- No media rule starts at the top level of a text, as far as another text that it goes on with. -/
def NoneStarts (cs ahead : List Char) : Prop :=
  ∀ a b, cs = a ++ b → b ≠ [] → IsTopLevel a → ¬ IsRuleStart (b ++ ahead)

/-- Settled lexemes lead from one rule to the next, if none starts among them. -/
theorem Passes.settled {ls : List Lexeme} {ahead : List Char} (h : Settled ls)
    (hnone : ∀ a b, ls = a ++ b → b ≠ [] → Settled a → ¬ IsRuleStart (textAll b ++ ahead)) :
    Passes ahead (.outside 0) ls (.outside 0) := by
  induction h with
  | nil => exact .nil _
  | @lexeme l ls hopen h ih =>
    have hrest : Passes ahead (.outside 0) ls (.outside 0) := by
      refine ih fun a b heq hb ha => hnone (l :: a) b ?_ hb (.lexeme hopen ha)
      rw [heq, List.cons_append]
    refine .lexeme ?_ (by rwa [Phase.keepAll_outside])
    rintro c position rfl
    have hc : c ≠ '{' := fun h => hopen (by rw [h])
    have hstart : startsRule (textAll (.bare c :: ls) ++ ahead) = false :=
      Bool.eq_false_iff.mpr fun hstart =>
        hnone [] (.bare c :: ls) rfl (by simp) .nil (startsRule_iff.mp hstart)
    simp [Phase.step, Phase.keep, hc, hstart, -Lexeme.textAll_cons]
  | @block inner ls hinner h ih =>
    refine .block (fun _ _ => rfl) (fun _ => .inside hinner) (fun _ _ => rfl) (ih ?_)
    intro a b heq hb ha
    refine hnone (.bare '{' :: inner ++ .bare '}' :: a) b ?_ hb (.block hinner ha)
    rw [heq]
    simp

/-- A slash makes no difference to a reader that is ready. -/
theorem scanFrom_of_isReady {s : Shield} {c : Char} {cs : List Char} (position : Nat)
    (phase : Phase) (hs : s.IsReady (c :: cs)) :
    scanFrom position phase s (c :: cs) = scanFrom position phase .plain (c :: cs) := by
  rw [scanFrom, scanFrom, hs.step_eq, hs.isBare]
  rfl

/-- The first media rule that starts at the top level of a text is the first to be found, if it has
a block. -/
theorem first_rule_is_found {before word rest : List Char} {block : RawBlock}
    (hrule : IsRuleAt before word block)
    (hnone : NoneStarts before (word ++ (block.text ++ rest))) :
    (mediaBlocks (before ++ (word ++ (block.text ++ rest)))).head? = some block := by
  obtain ⟨ls, hls, rfl, hsettled⟩ := hrule.isTopLevel
  obtain ⟨letters, hword, -⟩ := hrule.isKeyword.exists_letters
  have hpasses : Passes (word ++ (block.text ++ rest)) (.outside 0) ls (.outside 0) := by
    refine .settled hsettled fun a b heq hb ha => hnone (textAll a) (textAll b) ?_ ?_ ?_
    · rw [heq, Lexeme.textAll_append]
    · exact mt Lexeme.textAll_eq_nil_iff.mp hb
    · rw [heq] at hls
      exact ⟨a, hls.of_append.1, rfl, ha⟩
  have hend : Lexeme.EndsBefore ls (word ++ (block.text ++ rest)) :=
    Lexeme.endsBefore_of_head_ne (by simp [hword])
  have hready := Shield.isReady_plain (textAll ls ++ (word ++ (block.text ++ rest)))
  obtain ⟨position, hscan⟩ := scanFrom_textAll 0 hpasses hls hend hready
  have hthere := Lexeme.isReady_run_textAll hls hend hready
  obtain ⟨position', hblock⟩ := scanFrom_rule rest position hrule.isKeyword hrule.followsKeyword
    hrule.isPrelude hrule.isBody
  have htext : word ++ (block.text ++ rest) =
      word ++ (block.prelude ++ '{' :: (block.body ++ '}' :: rest)) := by
    simp [RawBlock.text]
  have hplain : scanFrom position (.outside 0) (Shield.plain.run (textAll ls))
      (word ++ (block.text ++ rest)) =
        scanFrom position (.outside 0) .plain (word ++ (block.text ++ rest)) := by
    rw [hword] at hthere ⊢
    exact scanFrom_of_isReady position _ hthere
  rw [mediaBlocks, scan, hscan, hplain, htext, hblock]
  rfl

end MediaQuery.Css
