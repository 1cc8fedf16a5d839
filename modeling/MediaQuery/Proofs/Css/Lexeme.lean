import MediaQuery.Css.Scan

/-!
# The grammar of comments and strings

As far as its blocks go, a stylesheet is a row of lexemes: comments, strings, and characters that
stand for themselves. `Lexeme` says so without a reader, and `IsReading` says which rows a reader
makes out of their text: in those, nothing that stands for itself opens a comment or a string.

* `closed_iff` — the texts of such rows are those in which every comment and string is closed
-/

namespace MediaQuery.Css

/-- What may stand between two quotes of a kind: a backslash goes with the character behind it, and
no other character is the quote. -/
inductive IsQuotable (quote : Char) : List Char → Prop where
  | nil : IsQuotable quote []
  | char {c : Char} {cs : List Char} (hquote : c ≠ quote) (hslash : c ≠ '\\')
    (h : IsQuotable quote cs) : IsQuotable quote (c :: cs)
  | escape {cs : List Char} (c : Char) (h : IsQuotable quote cs) :
    IsQuotable quote ('\\' :: c :: cs)

/-- The end of a comment. -/
def commentEnd : List Char := ['*', '/']

/-- What a stylesheet is made of. -/
inductive Lexeme where
  /-- A character that stands for itself. -/
  | bare (c : Char)
  | comment (inner : List Char)
  | quoted (quote : Char) (inner : List Char)
deriving DecidableEq, Repr

namespace Lexeme

/-- A lexeme as it is written. -/
def text : Lexeme → List Char
  | bare c => [c]
  | comment inner => '/' :: '*' :: (inner ++ commentEnd)
  | quoted quote inner => quote :: (inner ++ [quote])

/-- A row of lexemes as it is written. -/
def textAll (ls : List Lexeme) : List Char := ls.flatMap text

/-- Whether a lexeme ends where it is said to end, and not before. -/
def IsWhole : Lexeme → Prop
  | bare c => Shield.isQuote c = false
  | comment inner => ¬ commentEnd <:+: inner ++ ['*']
  | quoted quote inner => Shield.isQuote quote = true ∧ IsQuotable quote inner

/-- Whether a row of lexemes is what a reader makes out of its text: a slash that stands for itself
has no star behind it. -/
def IsReading : List Lexeme → Prop
  | [] => True
  | l :: rest => l.IsWhole ∧ (l = bare '/' → (textAll rest).head? ≠ some '*') ∧ IsReading rest

@[simp] theorem textAll_nil : textAll [] = [] := rfl

@[simp] theorem textAll_cons (l : Lexeme) (ls : List Lexeme) :
    textAll (l :: ls) = l.text ++ textAll ls := rfl

@[simp] theorem textAll_append (a b : List Lexeme) : textAll (a ++ b) = textAll a ++ textAll b :=
  List.flatMap_append

theorem text_ne_nil (l : Lexeme) : l.text ≠ [] := by
  cases l <;> simp [text]

theorem textAll_eq_nil_iff {ls : List Lexeme} : textAll ls = [] ↔ ls = [] := by
  cases ls with
  | nil => simp
  | cons l ls => simp [text_ne_nil]

theorem textAll_map_bare (cs : List Char) : textAll (cs.map bare) = cs := by
  induction cs with
  | nil => rfl
  | cons c cs ih => simp [ih, text]

theorem mem_textAll {c : Char} {ls : List Lexeme} (h : bare c ∈ ls) : c ∈ textAll ls :=
  List.mem_flatMap.mpr ⟨bare c, h, List.mem_singleton.mpr rfl⟩

/-- The parts of a row of lexemes are read as the row is. -/
theorem IsReading.of_append {a b : List Lexeme} (h : IsReading (a ++ b)) :
    IsReading a ∧ IsReading b := by
  induction a with
  | nil => exact ⟨trivial, h⟩
  | cons l a ih =>
    rw [List.cons_append] at h
    obtain ⟨hl, hslash, hrest⟩ := h
    refine ⟨⟨hl, fun heq hstar => hslash heq ?_, (ih hrest).1⟩, (ih hrest).2⟩
    rw [textAll_append, List.head?_append, hstar, Option.some_or]

/-- Where there is neither a slash nor a quote, every character stands for itself. -/
theorem isReading_map_bare {cs : List Char}
    (h : ∀ c ∈ cs, c ≠ '/' ∧ Shield.isQuote c = false) : IsReading (cs.map bare) := by
  induction cs with
  | nil => trivial
  | cons c cs ih =>
    obtain ⟨hslash, hquote⟩ := h c (by simp)
    exact ⟨hquote, by simp [hslash], ih fun d hd => h d (by simp [hd])⟩

end Lexeme

/-! ## Reading lexemes -/

namespace Shield

/-- Whether every character of a text is shielded from a reader in a state. -/
def Hides (s : Shield) : List Char → Prop
  | [] => True
  | c :: cs => s.isBare = false ∧ (s.step c).Hides cs

/-- Whether a reader in a state takes what is ahead for what it is: it stands outside, and not
between the two characters that open a comment. -/
def IsReady (s : Shield) (ahead : List Char) : Prop :=
  s = plain ∨ s = slash ∧ ahead.head? ≠ some '*'

variable {s : Shield} {c quote : Char} {cs inner ahead : List Char}

theorem isReady_plain (ahead : List Char) : plain.IsReady ahead := Or.inl rfl

theorem IsReady.isBare (h : s.IsReady ahead) : s.isBare = true := by
  rcases h with rfl | ⟨rfl, -⟩ <;> rfl

/-- A reader that is ready enters whatever comes. -/
theorem IsReady.step_eq (h : s.IsReady (c :: ahead)) : s.step c = enter c := by
  rcases h with rfl | ⟨rfl, hstar⟩
  · rfl
  · have hc : c ≠ '*' := fun hc => hstar (by simp [hc])
    simp [step, hc]

theorem enter_quote (h : isQuote c = true) : enter c = quoted c := by
  have hslash : c ≠ '/' := by rintro rfl; exact absurd h (by decide)
  simp [enter, hslash, h]

/-- A reader that a character other than a slash leaves outside is not about to enter anything. -/
theorem eq_plain_of_isBare_step (h : (s.step c).isBare = true) (hc : c ≠ '/') :
    s.step c = plain := by
  have henter : (enter c).isBare = true → enter c = plain := by
    intro henter
    by_cases hquote : isQuote c = true
    · rw [enter_quote hquote] at henter
      exact absurd henter Bool.false_ne_true
    · simp [enter, hc, hquote]
  cases s with
  | plain => exact henter h
  | slash =>
    rw [step] at h ⊢
    split at h
    · exact absurd h Bool.false_ne_true
    · next hstar => rw [if_neg hstar]; exact henter h
  | comment => rw [step] at h; split at h <;> exact absurd h Bool.false_ne_true
  | star =>
    rw [step, if_neg (by simpa using hc)] at h
    split at h <;> exact absurd h Bool.false_ne_true
  | quoted quote =>
    rw [step] at h ⊢
    split at h
    · exact absurd h Bool.false_ne_true
    · next hescape =>
      rw [if_neg hescape]
      split at h
      · next hquote => rw [if_pos hquote]
      · exact absurd h Bool.false_ne_true
  | escaped quote => exact absurd h Bool.false_ne_true

/-- A character that opens no string leaves the reader ready, but for a star behind a slash. -/
theorem isReady_enter (hc : isQuote c = false) (hstar : c = '/' → ahead.head? ≠ some '*') :
    (enter c).IsReady ahead := by
  by_cases h : c = '/'
  · exact Or.inr ⟨by simp [enter, h], hstar h⟩
  · exact Or.inl (by simp [enter, h, hc])

/-- A comment hides what is in it and its end, and is over then. -/
theorem hides_comment (h : ¬ commentEnd <:+: inner ++ ['*']) :
    comment.Hides (inner ++ commentEnd) ∧ comment.run (inner ++ commentEnd) = plain := by
  -- A star that was just read counts as part of what is in the comment.
  have key : ∀ inner : List Char,
      (¬ commentEnd <:+: inner ++ ['*'] →
        comment.Hides (inner ++ commentEnd) ∧ comment.run (inner ++ commentEnd) = plain) ∧
      (¬ commentEnd <:+: '*' :: (inner ++ ['*']) →
        star.Hides (inner ++ commentEnd) ∧ star.run (inner ++ commentEnd) = plain) := by
    intro inner
    induction inner with
    | nil => exact ⟨fun _ => ⟨⟨rfl, rfl, trivial⟩, rfl⟩, fun _ => ⟨⟨rfl, rfl, trivial⟩, rfl⟩⟩
    | cons c inner ih =>
      obtain ⟨hcomment, hstar⟩ := ih
      have htail : ∀ a cs, ¬ commentEnd <:+: a :: cs → ¬ commentEnd <:+: cs :=
        fun a cs h hcs => h (hcs.trans (List.suffix_cons a cs).isInfix)
      by_cases hc : c = '*'
      · subst hc
        exact ⟨fun h => ⟨⟨rfl, (hstar h).1⟩, (hstar h).2⟩,
          fun h => ⟨⟨rfl, (hstar (htail _ _ h)).1⟩, (hstar (htail _ _ h)).2⟩⟩
      · have hkeep : comment.step c = comment := by simp [step, hc]
        refine ⟨fun h => ?_, fun h => ?_⟩
        · have := hcomment (htail _ _ h)
          simp only [List.cons_append, Hides, run_cons, hkeep]
          exact ⟨⟨rfl, this.1⟩, this.2⟩
        · have hslash : c ≠ '/' := by
            rintro rfl
            exact h ⟨[], inner ++ ['*'], rfl⟩
          have hback : star.step c = comment := by simp [step, hc, hslash]
          have := hcomment (htail _ _ (htail _ _ h))
          simp only [List.cons_append, Hides, run_cons, hback]
          exact ⟨⟨rfl, this.1⟩, this.2⟩
  exact (key inner).1 h

/-- A string hides what is in it and its end, and is over then. -/
theorem hides_quoted (hquote : isQuote quote = true) (h : IsQuotable quote inner) :
    (quoted quote).Hides (inner ++ [quote]) ∧ (quoted quote).run (inner ++ [quote]) = plain := by
  have hslash : quote ≠ '\\' := by rintro rfl; exact absurd hquote (by decide)
  induction h with
  | nil => simp [Hides, isBare, step, hslash]
  | @char c cs hc hcslash h ih =>
    have hkeep : (quoted quote).step c = quoted quote := by simp [step, hc, hcslash]
    simp only [List.cons_append, Hides, run_cons, hkeep]
    exact ⟨⟨rfl, ih.1⟩, ih.2⟩
  | @escape cs c h ih => exact ⟨⟨rfl, rfl, ih.1⟩, ih.2⟩

end Shield

namespace Lexeme

variable {s : Shield} {l : Lexeme} {ls : List Lexeme} {ahead : List Char}

/-- Behind a lexeme a reader is ready for what is ahead. -/
theorem isReady_run_text (hs : s.IsReady (l.text ++ ahead)) (hl : l.IsWhole)
    (hslash : l = bare '/' → ahead.head? ≠ some '*') : (s.run l.text).IsReady ahead := by
  cases l with
  | bare c =>
    rw [text, Shield.run_cons, Shield.run_nil, hs.step_eq]
    exact Shield.isReady_enter hl fun hc => hslash (by rw [hc])
  | comment inner =>
    have hopen : (s.step '/').step '*' = .comment := by rw [hs.step_eq]; rfl
    rw [text, Shield.run_cons, Shield.run_cons, hopen, (Shield.hides_comment hl).2]
    exact Shield.isReady_plain ahead
  | quoted quote inner =>
    have hopen : s.step quote = .quoted quote := by
      rw [hs.step_eq, Shield.enter_quote hl.1]
    rw [text, Shield.run_cons, hopen, (Shield.hides_quoted hl.1 hl.2).2]
    exact Shield.isReady_plain ahead

/-- Whether no comment opens across the end of a row of lexemes. -/
def EndsBefore (ls : List Lexeme) (ahead : List Char) : Prop :=
  ls.getLast? = some (bare '/') → ahead.head? ≠ some '*'

theorem endsBefore_of_head_ne (hahead : ahead.head? ≠ some '*') : EndsBefore ls ahead :=
  fun _ => hahead

theorem EndsBefore.tail (h : EndsBefore (l :: ls) ahead) : EndsBefore ls ahead := by
  intro hlast
  exact h (by rw [List.getLast?_cons, hlast, Option.getD_some])

/-- What comes behind the first lexeme of a row does not turn it into something else. -/
theorem IsReading.head_ne_star (h : IsReading (l :: ls)) (hend : EndsBefore (l :: ls) ahead) :
    l = bare '/' → (textAll ls ++ ahead).head? ≠ some '*' := by
  intro hl
  have hnext := h.2.1 hl
  cases hls : textAll ls with
  | nil =>
    have hnil : ls = [] := textAll_eq_nil_iff.mp hls
    exact hend (by rw [hl, hnil]; rfl)
  | cons c cs => rwa [hls] at hnext

/-- Behind a row of lexemes a reader is ready for what is ahead. -/
theorem isReady_run_textAll (h : IsReading ls) (hend : EndsBefore ls ahead) :
    ∀ {s : Shield}, s.IsReady (textAll ls ++ ahead) → (s.run (textAll ls)).IsReady ahead := by
  induction ls with
  | nil => intro s hs; exact hs
  | cons l ls ih =>
    intro s hs
    rw [textAll_cons, List.append_assoc] at hs
    rw [textAll_cons, Shield.run_append]
    exact ih h.2.2 hend.tail (isReady_run_text hs h.1 (h.head_ne_star hend))

end Lexeme

/-- What a text has to be for a reader in a state to end outside comments and strings. -/
def Shield.Completes : Shield → List Char → Prop
  | plain, cs => ∃ ls, Lexeme.IsReading ls ∧ Lexeme.textAll ls = cs
  | slash, cs => ∃ ls, Lexeme.IsReading ls ∧ Lexeme.textAll ls = '/' :: cs
  | comment, cs => ∃ inner ls, Lexeme.IsReading ls ∧ ¬ commentEnd <:+: inner ++ ['*'] ∧
      inner ++ commentEnd ++ Lexeme.textAll ls = cs
  | star, cs => ∃ inner ls, Lexeme.IsReading ls ∧ ¬ commentEnd <:+: inner ++ ['*'] ∧
      inner ++ commentEnd ++ Lexeme.textAll ls = '*' :: cs
  | quoted q, cs => ∃ inner ls, Lexeme.IsReading ls ∧ IsQuotable q inner ∧
      inner ++ q :: Lexeme.textAll ls = cs
  | escaped q, cs => ∃ inner ls, Lexeme.IsReading ls ∧ IsQuotable q inner ∧
      inner ++ q :: Lexeme.textAll ls = '\\' :: cs

namespace Shield

variable {c : Char} {cs inner : List Char}

/-- What completes a comment still does so behind a character that does not end it. -/
theorem not_commentEnd_cons (h : ¬ commentEnd <:+: inner ++ ['*'])
    (hc : c = '*' → (inner ++ ['*']).head? ≠ some '/') :
    ¬ commentEnd <:+: c :: inner ++ ['*'] := by
  rw [List.cons_append, List.infix_cons_iff]
  rintro (hnow | hlater)
  · obtain ⟨rest, hrest⟩ := hnow
    obtain ⟨rfl, htail⟩ := List.cons.inj hrest
    exact hc rfl (by rw [← htail]; rfl)
  · exact h hlater

theorem completes_enter (h : (enter c).Completes cs) : plain.Completes (c :: cs) := by
  by_cases hslash : c = '/'
  · subst hslash
    exact h
  by_cases hquote : isQuote c = true
  · rw [enter_quote hquote] at h
    obtain ⟨inner, ls, hls, hinner, rfl⟩ := h
    exact ⟨.quoted c inner :: ls, ⟨⟨hquote, hinner⟩, by simp, hls⟩, by simp [Lexeme.text]⟩
  · have hplain : enter c = plain := by simp [enter, hslash, hquote]
    rw [hplain] at h
    obtain ⟨ls, hls, rfl⟩ := h
    exact ⟨.bare c :: ls, ⟨Bool.eq_false_iff.mpr hquote, by simp [hslash], hls⟩, rfl⟩

theorem completes_slash (h : (slash.step c).Completes cs) : slash.Completes (c :: cs) := by
  by_cases hstar : c = '*'
  · subst hstar
    obtain ⟨inner, ls, hls, hinner, rfl⟩ := h
    exact ⟨.comment inner :: ls, ⟨hinner, by simp, hls⟩, by simp [Lexeme.text]⟩
  · have henter : slash.step c = enter c := by simp [step, hstar]
    rw [henter] at h
    obtain ⟨ls, hls, htext⟩ := completes_enter h
    exact ⟨.bare '/' :: ls, ⟨rfl, fun _ => by simp [htext, hstar], hls⟩,
      by simp [Lexeme.text, htext]⟩

theorem completes_comment (h : (comment.step c).Completes cs) : comment.Completes (c :: cs) := by
  by_cases hstar : c = '*'
  · subst hstar
    exact h
  · have hkeep : comment.step c = comment := by simp [step, hstar]
    rw [hkeep] at h
    obtain ⟨inner, ls, hls, hinner, rfl⟩ := h
    exact ⟨c :: inner, ls, hls, not_commentEnd_cons hinner fun h => absurd h hstar, rfl⟩

theorem completes_star (h : (star.step c).Completes cs) : star.Completes (c :: cs) := by
  by_cases hslash : c = '/'
  · subst hslash
    obtain ⟨ls, hls, rfl⟩ := h
    exact ⟨[], ls, hls, by decide, rfl⟩
  by_cases hstar : c = '*'
  · subst hstar
    obtain ⟨inner, ls, hls, hinner, htext⟩ := h
    refine ⟨'*' :: inner, ls, hls, not_commentEnd_cons hinner fun _ => ?_, by simp [← htext]⟩
    -- what is in the comment, as far as it goes, begins with the second star
    cases inner with
    | nil => simp
    | cons d inner =>
      obtain ⟨rfl, -⟩ := List.cons.inj htext
      simp
  · have hback : star.step c = comment := by simp [step, hstar, hslash]
    rw [hback] at h
    obtain ⟨inner, ls, hls, hinner, rfl⟩ := h
    have hc := not_commentEnd_cons hinner fun h => absurd h hstar
    exact ⟨'*' :: c :: inner, ls, hls, not_commentEnd_cons hc fun _ => by simp [hslash], rfl⟩

theorem completes_quoted {q : Char} (h : ((quoted q).step c).Completes cs) :
    (quoted q).Completes (c :: cs) := by
  by_cases hescape : c = '\\'
  · subst hescape
    exact h
  by_cases hquote : c = q
  · subst hquote
    have hend : (quoted c).step c = plain := by simp [step, hescape]
    rw [hend] at h
    obtain ⟨ls, hls, rfl⟩ := h
    exact ⟨[], ls, hls, .nil, rfl⟩
  · have hkeep : (quoted q).step c = quoted q := by simp [step, hescape, hquote]
    rw [hkeep] at h
    obtain ⟨inner, ls, hls, hinner, rfl⟩ := h
    exact ⟨c :: inner, ls, hls, .char hquote hescape hinner, rfl⟩

/-- What completes what is begun behind a character completes, behind it, what was begun before. -/
theorem completes_step {s : Shield} (h : (s.step c).Completes cs) : s.Completes (c :: cs) := by
  cases s with
  | plain => exact completes_enter h
  | slash => exact completes_slash h
  | comment => exact completes_comment h
  | star => exact completes_star h
  | quoted q => exact completes_quoted h
  | escaped q =>
    obtain ⟨inner, ls, hls, hinner, rfl⟩ := h
    exact ⟨'\\' :: c :: inner, ls, hls, .escape c hinner, rfl⟩

theorem completes_nil {s : Shield} (h : s.isBare = true) : s.Completes [] := by
  cases s with
  | plain => exact ⟨[], trivial, rfl⟩
  | slash => exact ⟨[.bare '/'], ⟨rfl, by simp, trivial⟩, rfl⟩
  | _ => exact absurd h (by simp [isBare])

theorem completes_of_isBare_run {s : Shield} (h : (s.run cs).isBare = true) : s.Completes cs := by
  induction cs generalizing s with
  | nil => exact completes_nil h
  | cons c cs ih => exact completes_step (ih h)

end Shield

/-- A text is what a reader makes lexemes out of exactly if every comment and string is closed
within it. -/
theorem closed_iff {cs : List Char} :
    Closed cs ↔ ∃ ls, Lexeme.IsReading ls ∧ Lexeme.textAll ls = cs := by
  constructor
  · intro h
    exact Shield.completes_of_isBare_run h
  · rintro ⟨ls, hls, rfl⟩
    have hend : Lexeme.EndsBefore ls [] := Lexeme.endsBefore_of_head_ne (by simp)
    exact (Lexeme.isReady_run_textAll hls hend (Shield.isReady_plain _)).isBare

end MediaQuery.Css
