import MediaQuery.Proofs.Css.Lexeme
import MediaQuery.Proofs.Text.Spelling
import MediaQuery.Text.Size

/-!
# Reading back a stylesheet

A stylesheet is written item by item: media rules with a block, media rules that a semicolon ends,
and other text. `Item` carries what makes each of them what it is, and `mediaBlocks` gives back the
media rules with a block, whatever stands around them.

The scanner goes through a row of lexemes by its phases alone (`Passes`); that comments and strings
do not disturb it is shown once (`scanFrom_textAll`).

* `mediaBlocks_write` — the blocks of a written stylesheet
-/

namespace MediaQuery.Css

open Lexeme (textAll IsReading)

/-! ## The grammar of blocks -/

/-- Lexemes in which every brace has its partner. -/
inductive Balanced : List Lexeme → Prop where
  | nil : Balanced []
  | lexeme {l : Lexeme} {ls : List Lexeme} (hopen : l ≠ .bare '{') (hclose : l ≠ .bare '}')
    (h : Balanced ls) : Balanced (l :: ls)
  | block {inner ls : List Lexeme} (hinner : Balanced inner) (h : Balanced ls) :
    Balanced (.bare '{' :: inner ++ .bare '}' :: ls)

/-- A text may follow the keyword of a media rule. -/
def FollowsKeyword (cs : List Char) : Prop :=
  ∃ c rest, cs = c :: rest ∧ (Ascii.isSpace c = true ∨ c = '(')

/-- A text is the keyword of a media rule, in any letter case. -/
def IsKeyword (cs : List Char) : Prop := Ascii.sameLetters cs keyword = true

instance (cs : List Char) : Decidable (IsKeyword cs) := inferInstanceAs (Decidable (_ = true))

/-- A text begins with the keyword of a media rule and what may follow it. -/
def IsRuleStart (cs : List Char) : Prop :=
  ∃ word rest, cs = word ++ rest ∧ IsKeyword word ∧ FollowsKeyword rest

/-- Lexemes in which every brace has its partner, and no media rule starts outside braces. -/
inductive Ordinary : List Lexeme → Prop where
  | nil : Ordinary []
  | lexeme {l : Lexeme} {ls : List Lexeme} (hopen : l ≠ .bare '{') (hclose : l ≠ .bare '}')
    (hrule : l = .bare '@' → ¬ IsRuleStart (textAll (l :: ls))) (h : Ordinary ls) :
    Ordinary (l :: ls)
  | block {inner ls : List Lexeme} (hinner : Balanced inner) (h : Ordinary ls) :
    Ordinary (.bare '{' :: inner ++ .bare '}' :: ls)

theorem textAll_block (inner ls : List Lexeme) :
    textAll (.bare '{' :: inner ++ .bare '}' :: ls) =
      '{' :: (textAll inner ++ '}' :: textAll ls) := by
  simp [Lexeme.text]

/-- Whether a character may end an item: a brace that closes, a semicolon, or white space. -/
def endsItem (c : Char) : Bool := c == '}' || c == ';' || Blank.isBlank c

/-- What may stand before the block of a media rule: its comments and strings are closed, and no
brace opens and no semicolon stands outside them. -/
def IsPrelude (cs : List Char) : Prop :=
  ∃ ls, IsReading ls ∧ textAll ls = cs ∧ Lexeme.bare '{' ∉ ls ∧ Lexeme.bare ';' ∉ ls

/-- What may stand in a block: its comments and strings are closed, and outside them every brace has
its partner. -/
def IsBody (cs : List Char) : Prop := ∃ ls, IsReading ls ∧ textAll ls = cs ∧ Balanced ls

/-- What may stand between media rules: its comments and strings are closed, outside them every
brace has its partner, no media rule starts outside braces, and it ends like an item. -/
def IsOrdinary (cs : List Char) : Prop :=
  (∃ ls, IsReading ls ∧ textAll ls = cs ∧ Ordinary ls) ∧
    ∃ c, cs.getLast? = some c ∧ endsItem c = true

/-- A text without slashes, quotes, braces and semicolons may stand before a block. -/
theorem isPrelude_of_plain {cs : List Char}
    (h : ∀ c ∈ cs, c ≠ '/' ∧ c ≠ '{' ∧ c ≠ ';' ∧ Shield.isQuote c = false) : IsPrelude cs := by
  refine ⟨cs.map .bare, ?_, Lexeme.textAll_map_bare cs, ?_, ?_⟩
  · exact Lexeme.isReading_map_bare fun c hc => ⟨(h c hc).1, (h c hc).2.2.2⟩
  · simpa using fun hc => (h '{' hc).2.1 rfl
  · simpa using fun hc => (h ';' hc).2.2.1 rfl

/-! ## The keyword -/

theorem startsRule_iff {cs : List Char} : startsRule cs = true ↔ IsRuleStart cs := by
  unfold startsRule
  constructor
  · intro h
    split at h
    · next c rest hword =>
      obtain ⟨word, rfl, hspelled⟩ := Ascii.dropWord?_eq_some_iff.mp hword
      exact ⟨word, c :: rest, rfl, hspelled, c, rest, rfl, by simpa using h⟩
    · exact absurd h Bool.false_ne_true
  · rintro ⟨word, _, rfl, hspelled, c, rest, rfl, hc⟩
    rw [Ascii.dropWord?_eq_some_iff.mpr ⟨word, rfl, hspelled⟩]
    simpa using hc

theorem IsKeyword.lower_eq {cs : List Char} (h : IsKeyword cs) :
    Ascii.lower cs = Ascii.lower keyword := by
  simpa [IsKeyword, Ascii.sameLetters] using h

/-- A character that is not in the keyword is in no spelling of it. -/
theorem IsKeyword.not_mem {word : List Char} {c : Char} (hword : IsKeyword word)
    (hc : c.toLower ∉ Ascii.lower keyword) : c ∉ word := by
  intro hmem
  rw [← hword.lower_eq] at hc
  exact hc (List.mem_map_of_mem hmem)

/-- The keyword is an at-sign and five letters. -/
theorem IsKeyword.exists_letters {word : List Char} (hword : IsKeyword word) :
    ∃ letters, word = '@' :: letters ∧ letters.length = 5 := by
  have hlower : word.map Char.toLower = ['@', 'm', 'e', 'd', 'i', 'a'] := hword.lower_eq
  obtain ⟨a, letters, rfl, ha, hletters⟩ := List.map_eq_cons_iff.mp hlower
  obtain rfl : a = '@' := Ascii.eq_of_toLower_eq ha (by decide)
  exact ⟨letters, rfl, by simpa using congrArg List.length hletters⟩

/-- What ends an item is not in the keyword. -/
theorem endsItem_of_mem {word : List Char} (hword : IsKeyword word) {c : Char} (hc : c ∈ word) :
    endsItem c = false := by
  rw [Bool.eq_false_iff]
  intro hend
  have hself : c.toLower = c := by
    simp only [endsItem, Bool.or_eq_true, beq_iff_eq] at hend
    rcases hend with (rfl | rfl) | hblank
    · rfl
    · rfl
    · exact Ascii.toLower_of_isBlank hblank
  have hletters : ∀ d ∈ Ascii.lower keyword, endsItem d = false :=
    forall_mem_of_all (by decide +kernel)
  refine hword.not_mem (fun hmem => ?_) hc
  rw [hself] at hmem
  exact absurd hend (by simp [hletters c hmem])

/-- Whether a media rule starts in an item does not depend on what follows the item. -/
theorem isRuleStart_of_append {cs rest : List Char} {c : Char} (hlast : cs.getLast? = some c)
    (hc : endsItem c = true) (h : IsRuleStart (cs ++ rest)) : IsRuleStart cs := by
  obtain ⟨word, after, heq, hword, d, behind, rfl, hd⟩ := h
  -- the keyword can not reach to the end of the item, which is no letter of it
  have hshort : ∀ more, word ≠ cs ++ more := by
    rintro more rfl
    have hmem : c ∈ cs ++ more := List.mem_append_left _ (List.mem_of_getLast? hlast)
    rw [endsItem_of_mem hword hmem] at hc
    exact Bool.noConfusion hc
  rcases List.append_eq_append_iff.mp heq with ⟨more, hmore, -⟩ | ⟨more, rfl, hmore⟩
  · exact absurd hmore (hshort more)
  · cases more with
    | nil => exact absurd (by simp) (hshort [])
    | cons e more =>
      obtain ⟨rfl, -⟩ := List.cons.inj hmore
      exact ⟨word, d :: more, rfl, hword, d, more, rfl, hd⟩

/-! ## Phases -/

namespace Phase

variable {phase : Phase} {position depth start : Nat} {c : Char} {ahead prelude read cs : List Char}

/-- The phase after a text that means nothing here. -/
def keepAll (phase : Phase) (cs : List Char) : Phase := cs.foldl keep phase

@[simp] theorem keepAll_nil (phase : Phase) : phase.keepAll [] = phase := rfl

@[simp] theorem keepAll_cons (phase : Phase) (c : Char) (cs : List Char) :
    phase.keepAll (c :: cs) = (phase.keep c).keepAll cs := rfl

@[simp] theorem keepAll_outside : (outside depth).keepAll cs = outside depth := by
  induction cs with
  | nil => rfl
  | cons c cs ih => exact ih

@[simp] theorem keepAll_prelude :
    (Phase.prelude start read).keepAll cs = .prelude start (cs.reverse ++ read) := by
  induction cs generalizing read with
  | nil => rfl
  | cons c cs ih =>
    rw [keepAll_cons, keep, ih, List.reverse_cons, List.append_assoc]
    rfl

@[simp] theorem keepAll_body :
    (body start prelude depth read).keepAll cs = body start prelude depth (cs.reverse ++ read) := by
  induction cs generalizing read with
  | nil => rfl
  | cons c cs ih =>
    rw [keepAll_cons, keep, ih, List.reverse_cons, List.append_assoc]
    rfl

/-- The characters that mean something in some phase. -/
def marks : List Char := ['{', '}', ';', '@']

theorem step_of_not_mem_marks (h : c ∉ marks) :
    phase.step position c ahead = (phase.keep c, none) := by
  simp only [marks, List.mem_cons, List.not_mem_nil, or_false, not_or] at h
  cases phase <;> simp [step, keep, h]

/-- A block is completed by the brace that closes it. -/
theorem exists_of_step_eq_some {next : Phase} {block : RawBlock}
    (h : phase.step position c ahead = (next, some block)) :
    ∃ start p read, phase = body start p 0 read ∧ c = '}' ∧ next = outside 0 ∧
      block = ⟨p, read.reverse⟩ := by
  unfold step at h
  grind

end Phase

/-- Read in a phase, before some text, some lexemes complete no block and lead to another phase. -/
inductive Passes (ahead : List Char) : Phase → List Lexeme → Phase → Prop where
  | nil (phase : Phase) : Passes ahead phase [] phase
  | bare {phase next last : Phase} {c : Char} {ls : List Lexeme}
    (hstep : ∀ position, phase.step position c (c :: (textAll ls ++ ahead)) = (next, none))
    (h : Passes ahead next ls last) : Passes ahead phase (.bare c :: ls) last
  | kept {phase last : Phase} {l : Lexeme} {ls : List Lexeme} (hl : ∀ c, l ≠ .bare c)
    (h : Passes ahead (phase.keepAll l.text) ls last) : Passes ahead phase (l :: ls) last

namespace Passes

variable {phase last : Phase} {l : Lexeme} {ls a b : List Lexeme} {ahead read p : List Char}
  {start depth : Nat}

theorem append {middle : Phase} (h : Passes (textAll b ++ ahead) phase a middle)
    (h' : Passes ahead middle b last) : Passes ahead phase (a ++ b) last := by
  induction h with
  | nil phase => exact h'
  | @bare phase next last c ls hstep h ih =>
    refine .bare (fun position => ?_) (ih h')
    change phase.step position c (c :: (textAll (ls ++ b) ++ ahead)) = _
    rw [Lexeme.textAll_append, List.append_assoc]
    exact hstep position
  | kept hl h ih => exact .kept hl (ih h')

/-- A lexeme that means nothing in a phase. -/
theorem lexeme (hstep : ∀ c position, l = .bare c →
      phase.step position c (textAll (l :: ls) ++ ahead) = (phase.keep c, none))
    (h : Passes ahead (phase.keepAll l.text) ls last) : Passes ahead phase (l :: ls) last := by
  cases l with
  | bare c => exact .bare (fun position => hstep c position rfl) h
  | comment inner => exact .kept (by simp) h
  | quoted quote inner => exact .kept (by simp) h

/-- A block between braces, read in a phase that only its depth sets apart from the one in it. -/
theorem block {inner : List Lexeme} {within within' next : Phase}
    (hopen : ∀ position ahead, phase.step position '{' ahead = (within, none))
    (hinner : ∀ ahead, Passes ahead within inner within')
    (hclose : ∀ position ahead, within'.step position '}' ahead = (next, none))
    (h : Passes ahead next ls last) :
    Passes ahead phase (.bare '{' :: inner ++ .bare '}' :: ls) last :=
  .bare (fun position => hopen position _)
    ((hinner _).append (.bare (fun position => hclose position _) h))

/-- What stands before a block is collected. -/
theorem prelude (hopen : Lexeme.bare '{' ∉ ls) (hend : Lexeme.bare ';' ∉ ls) :
    Passes ahead (.prelude start read) ls (.prelude start ((textAll ls).reverse ++ read)) := by
  induction ls generalizing read with
  | nil => exact .nil _
  | cons l ls ih =>
    rw [List.mem_cons, not_or] at hopen hend
    refine .lexeme ?_ ?_
    · rintro c position rfl
      have hc : c ≠ '{' := fun h => hopen.1 (by rw [h])
      have hc' : c ≠ ';' := fun h => hend.1 (by rw [h])
      simp [Phase.step, hc, hc']
    · rw [Phase.keepAll_prelude, Lexeme.textAll_cons, List.reverse_append, List.append_assoc]
      exact ih hopen.2 hend.2

/-- What is in a block is collected. -/
theorem body (h : Balanced ls) :
    Passes ahead (.body start p depth read) ls
      (.body start p depth ((textAll ls).reverse ++ read)) := by
  induction h generalizing ahead depth read with
  | nil => exact .nil _
  | @lexeme l ls hopen hclose h ih =>
    refine .lexeme ?_ ?_
    · rintro c position rfl
      have hc : c ≠ '{' := fun h => hopen (by rw [h])
      have hc' : c ≠ '}' := fun h => hclose (by rw [h])
      simp [Phase.step, hc, hc']
    · rw [Phase.keepAll_body, Lexeme.textAll_cons, List.reverse_append, List.append_assoc]
      exact ih
  | @block inner ls hinner h ihinner ih =>
    have htext : (textAll (.bare '{' :: inner ++ .bare '}' :: ls)).reverse ++ read =
        (textAll ls).reverse ++ '}' :: ((textAll inner).reverse ++ '{' :: read) := by
      rw [textAll_block]
      simp
    rw [htext]
    exact .block (fun _ _ => rfl) (fun _ => ihinner) (fun _ _ => rfl) ih

/-- Inside braces that belong to no media rule nothing is collected, and nothing starts. -/
theorem inside (h : Balanced ls) :
    Passes ahead (.outside (depth + 1)) ls (.outside (depth + 1)) := by
  induction h generalizing ahead depth with
  | nil => exact .nil _
  | @lexeme l ls hopen hclose h ih =>
    refine .lexeme ?_ (by rw [Phase.keepAll_outside]; exact ih)
    rintro c position rfl
    have hc : c ≠ '{' := fun h => hopen (by rw [h])
    have hc' : c ≠ '}' := fun h => hclose (by rw [h])
    simp [Phase.step, Phase.keep, hc, hc']
  | block hinner h ihinner ih =>
    exact .block (fun _ _ => rfl) (fun _ => ihinner) (fun _ _ => rfl) ih

/-- Between media rules nothing is collected either, and nothing starts there. -/
theorem outside (h : Ordinary ls)
    (hends : ∀ c, (textAll ls).getLast? = some c → endsItem c = true) :
    Passes ahead (.outside 0) ls (.outside 0) := by
  induction h generalizing ahead with
  | nil => exact .nil _
  | @lexeme l ls hopen hclose hrule h ih =>
    have hrest : Passes ahead (.outside 0) ls (.outside 0) := ih fun c hc =>
      hends c (by rw [Lexeme.textAll_cons, List.getLast?_append, hc]; rfl)
    refine .lexeme ?_ (by rwa [Phase.keepAll_outside])
    rintro c position rfl
    have hc : c ≠ '{' := fun h => hopen (by rw [h])
    have hc' : c ≠ '}' := fun h => hclose (by rw [h])
    by_cases hat : c = '@'
    · subst hat
      obtain ⟨z, hz⟩ : ∃ z, (textAll (.bare '@' :: ls)).getLast? = some z :=
        Option.ne_none_iff_exists'.mp (by simp [Lexeme.text])
      have hnot : startsRule (textAll (.bare '@' :: ls) ++ ahead) = false := by
        rw [Bool.eq_false_iff]
        intro hstarts
        exact hrule rfl (isRuleStart_of_append hz (hends z hz) (startsRule_iff.mp hstarts))
      simp [Phase.step, Phase.keep, hnot, -Lexeme.textAll_cons]
    · simp [Phase.step, Phase.keep, hc, hc', hat]
  | @block inner ls hinner h ih =>
    refine .block (fun _ _ => rfl) (fun _ => inside hinner) (fun _ _ => rfl) (ih fun c hc => ?_)
    exact hends c (by simp [hc])

end Passes

/-! ## Scanning lexemes -/

variable {phase last : Phase} {s : Shield} {ls : List Lexeme}
  {cs ahead prelude body word : List Char}

theorem scanFrom_bare {c : Char} {position : Nat} {next : Phase} (hs : s.isBare = true)
    (hstep : phase.step position c (c :: cs) = (next, none)) :
    scanFrom position phase s (c :: cs) =
      scanFrom (position + c.utf8Size) next (s.step c) cs := by
  rw [scanFrom, if_pos hs, hstep]

/-- Shielded characters mean nothing. -/
theorem scanFrom_of_hides (position : Nat) (h : s.Hides cs) :
    scanFrom position phase s (cs ++ ahead) =
      scanFrom (position + Size.utf8 cs) (phase.keepAll cs) (s.run cs) ahead := by
  induction cs generalizing position phase s with
  | nil => rfl
  | cons c cs ih =>
    rw [List.cons_append, scanFrom, if_neg (by simp [h.1])]
    exact (ih _ h.2).trans (by rw [Size.utf8_cons, Nat.add_assoc]; rfl)

/-- Comments and strings mean nothing. -/
theorem scanFrom_kept {l : Lexeme} (position : Nat) (hbare : ∀ c, l ≠ .bare c) (hl : l.IsWhole)
    (hs : s.IsReady (l.text ++ ahead)) :
    ∃ position', scanFrom position phase s (l.text ++ ahead) =
      scanFrom position' (phase.keepAll l.text) (s.run l.text) ahead := by
  cases l with
  | bare c => exact absurd rfl (hbare c)
  | comment inner =>
    have hopen : s.step '/' = .slash := hs.step_eq
    have hstar : Shield.slash.step '*' = .comment := rfl
    refine ⟨position + '/'.utf8Size + '*'.utf8Size + Size.utf8 (inner ++ commentEnd), ?_⟩
    rw [Lexeme.text, List.cons_append, List.cons_append,
      scanFrom_bare hs.isBare (Phase.step_of_not_mem_marks (by decide)), hopen,
      scanFrom_bare rfl (Phase.step_of_not_mem_marks (by decide)), hstar,
      scanFrom_of_hides _ (Shield.hides_comment hl).1, Shield.run_cons, Shield.run_cons, hopen]
    rfl
  | quoted quote inner =>
    have hopen : s.step quote = .quoted quote := hs.step_eq.trans (Shield.enter_quote hl.1)
    have hmark : quote ∉ Phase.marks := by
      intro hmem
      have hnone : ∀ c ∈ Phase.marks, Shield.isQuote c = false :=
        forall_mem_of_all (by decide)
      exact absurd hl.1 (by simp [hnone quote hmem])
    refine ⟨position + quote.utf8Size + Size.utf8 (inner ++ [quote]), ?_⟩
    rw [Lexeme.text, List.cons_append, scanFrom_bare hs.isBare (Phase.step_of_not_mem_marks hmark),
      hopen, scanFrom_of_hides _ (Shield.hides_quoted hl.1 hl.2).1, Shield.run_cons, hopen]
    rfl

/-- The scanner goes through lexemes as its phases do. -/
theorem scanFrom_textAll (position : Nat) (h : Passes ahead phase ls last) (hls : IsReading ls)
    (hend : Lexeme.EndsBefore ls ahead) (hs : s.IsReady (textAll ls ++ ahead)) :
    ∃ position', scanFrom position phase s (textAll ls ++ ahead) =
      scanFrom position' last (s.run (textAll ls)) ahead := by
  induction h generalizing position s with
  | nil phase => exact ⟨position, rfl⟩
  | @bare phase next last c ls hstep h ih =>
    have hready := Lexeme.isReady_run_text hs hls.1 (hls.head_ne_star hend)
    obtain ⟨position', heq⟩ := ih _ hls.2.2 hend.tail hready
    exact ⟨position', (scanFrom_bare hs.isBare (hstep position)).trans heq⟩
  | @kept phase last l ls hl h ih =>
    rw [Lexeme.textAll_cons, List.append_assoc] at hs ⊢
    have hready := Lexeme.isReady_run_text hs hls.1 (hls.head_ne_star hend)
    obtain ⟨middle, hfirst⟩ := scanFrom_kept position hl hls.1 hs
    obtain ⟨position', heq⟩ := ih _ hls.2.2 hend.tail hready
    exact ⟨position', by rw [hfirst, heq, Shield.run_append]⟩

/-! ## Items -/

/-- The letters that are still to come of a keyword are passed. -/
theorem scanFrom_letters {letters : List Char} (position start : Nat) (hne : letters ≠ [])
    (hplain : ∀ a ∈ letters, Shield.plain.step a = .plain) :
    scanFrom position (.keyword start letters.length) .plain (letters ++ cs) =
      scanFrom (position + Size.utf8 letters) (.prelude start []) .plain cs := by
  induction letters generalizing position with
  | nil => exact absurd rfl hne
  | cons a letters ih =>
    have ha := hplain a (by simp)
    cases letters with
    | nil => exact (scanFrom_bare rfl rfl).trans (by rw [ha]; rfl)
    | cons b rest =>
      have heq := ih (position + a.utf8Size) (by simp)
        (fun x hx => hplain x (List.mem_cons_of_mem _ hx))
      refine (scanFrom_bare rfl rfl).trans ?_
      rw [ha, Size.utf8_cons a, ← Nat.add_assoc]
      exact heq

/-- The keyword is passed, and what follows it is collected. -/
theorem scanFrom_keyword (position : Nat) (hword : IsKeyword word) (hcs : FollowsKeyword cs) :
    scanFrom position (.outside 0) .plain (word ++ cs) =
      scanFrom (position + Size.utf8 word) (.prelude position []) .plain cs := by
  have hstarts : startsRule (word ++ cs) = true :=
    startsRule_iff.mpr ⟨word, cs, rfl, hword, hcs⟩
  -- no letter of the word opens a comment or a string, whatever its case
  have hplain : ∀ a ∈ word, Shield.plain.step a = .plain := by
    intro a ha
    have hslash : a ≠ '/' := ne_of_mem_of_not_mem ha (hword.not_mem (by decide +kernel))
    have hdouble : a ≠ '"' := ne_of_mem_of_not_mem ha (hword.not_mem (by decide +kernel))
    have hsingle : a ≠ '\'' := ne_of_mem_of_not_mem ha (hword.not_mem (by decide +kernel))
    simp [Shield.step, Shield.enter, Shield.isQuote, hslash, hdouble, hsingle]
  obtain ⟨letters, rfl, hlength⟩ := hword.exists_letters
  have hfirst : (Phase.outside 0).step position '@' ('@' :: letters ++ cs) =
      (.keyword position letters.length, none) := by
    simp only [Phase.step, hstarts, hlength]
    rfl
  have hrest : scanFrom (position + '@'.utf8Size) (.keyword position letters.length) .plain
      (letters ++ cs) = _ :=
    scanFrom_letters _ position (List.ne_nil_of_length_eq_add_one hlength)
      (fun x hx => hplain x (List.mem_cons_of_mem _ hx))
  rw [Size.utf8_cons, ← Nat.add_assoc]
  exact (scanFrom_bare rfl hfirst).trans hrest

/-- What may stand before a block is collected up to the character that ends it. -/
theorem scanFrom_prelude {d : Char} (position start : Nat) (hp : IsPrelude prelude) (hd : d ≠ '*') :
    ∃ position' s', s'.isBare = true ∧
      scanFrom position (.prelude start []) .plain (prelude ++ d :: cs) =
        scanFrom position' (.prelude start prelude.reverse) s' (d :: cs) := by
  obtain ⟨ls, hls, rfl, hopen, hend⟩ := hp
  have hends : Lexeme.EndsBefore ls (d :: cs) := Lexeme.endsBefore_of_head_ne (by simpa using hd)
  have hready := Shield.isReady_plain (textAll ls ++ d :: cs)
  obtain ⟨position', heq⟩ :=
    scanFrom_textAll position (Passes.prelude hopen hend) hls hends hready
  rw [List.append_nil] at heq
  exact ⟨position', _, (Lexeme.isReady_run_textAll hls hends hready).isBare, heq⟩

/-- What may stand in a block is collected up to the brace that closes it. -/
theorem scanFrom_body (position start : Nat) (hb : IsBody body) :
    ∃ position' s', s'.isBare = true ∧
      scanFrom position (.body start prelude 0 []) .plain (body ++ '}' :: cs) =
        scanFrom position' (.body start prelude 0 body.reverse) s' ('}' :: cs) := by
  obtain ⟨ls, hls, rfl, hbalanced⟩ := hb
  have hends : Lexeme.EndsBefore ls ('}' :: cs) := Lexeme.endsBefore_of_head_ne (by simp)
  have hready := Shield.isReady_plain (textAll ls ++ '}' :: cs)
  obtain ⟨position', heq⟩ := scanFrom_textAll position (Passes.body hbalanced) hls hends hready
  rw [List.append_nil] at heq
  exact ⟨position', _, (Lexeme.isReady_run_textAll hls hends hready).isBare, heq⟩

theorem scanFrom_completed {c : Char} {position : Nat} {next : Phase} {block : RawBlock}
    (hs : s.isBare = true) (hstep : phase.step position c (c :: cs) = (next, some block)) :
    scanFrom position phase s (c :: cs) =
      (block :: (scanFrom (position + c.utf8Size) next (s.step c) cs).1,
        (scanFrom (position + c.utf8Size) next (s.step c) cs).2) := by
  rw [scanFrom, if_pos hs, hstep]

/-- A brace or a semicolon outside comments and strings leaves a reader there. -/
theorem step_eq_plain {c : Char} (hs : s.isBare = true) (hc : c ∈ Phase.marks) :
    s.step c = .plain := by
  have hmarks : ∀ c ∈ Phase.marks, c ≠ '/' ∧ c ≠ '*' ∧ Shield.isQuote c = false :=
    forall_mem_of_all (by decide)
  obtain ⟨hslash, hstar, hquote⟩ := hmarks c hc
  exact Shield.step_of_isBare hs hslash hstar hquote

/-- A media rule with a block gives its block, and the scanner is where it was. -/
theorem scanFrom_rule (cs : List Char) (position : Nat) (hword : IsKeyword word)
    (hfollows : FollowsKeyword prelude) (hp : IsPrelude prelude) (hb : IsBody body) :
    ∃ position', scanFrom position (.outside 0) .plain
        (word ++ (prelude ++ '{' :: (body ++ '}' :: cs))) =
      (⟨prelude, body⟩ :: (scanFrom position' (.outside 0) .plain cs).1,
        (scanFrom position' (.outside 0) .plain cs).2) := by
  have hfollows' : FollowsKeyword (prelude ++ '{' :: (body ++ '}' :: cs)) := by
    obtain ⟨c, rest, rfl, hc⟩ := hfollows
    exact ⟨c, _, rfl, hc⟩
  have h₁ := scanFrom_keyword position hword hfollows'
  obtain ⟨p₂, s₂, hs₂, h₂⟩ :=
    scanFrom_prelude (position + Size.utf8 word) position hp (show '{' ≠ '*' by decide)
  obtain ⟨p₃, s₃, hs₃, h₃⟩ := scanFrom_body (p₂ + '{'.utf8Size) position hb
  refine ⟨p₃ + '}'.utf8Size, ?_⟩
  rw [h₁, h₂, scanFrom_bare hs₂ rfl, step_eq_plain hs₂ (by decide), List.reverse_reverse, h₃,
    scanFrom_completed hs₃ rfl, step_eq_plain hs₃ (by decide), List.reverse_reverse]

/-- The block of a stylesheet that holds one media rule is read back. -/
theorem mediaBlocks_rule (hword : IsKeyword word) (hfollows : FollowsKeyword prelude)
    (hp : IsPrelude prelude) (hb : IsBody body) :
    mediaBlocks (word ++ (prelude ++ '{' :: (body ++ ['}']))) = [⟨prelude, body⟩] := by
  obtain ⟨position, h⟩ := scanFrom_rule [] 0 hword hfollows hp hb
  exact (congrArg Prod.fst h).trans rfl

/-- A media rule that a semicolon ends gives nothing, and the scanner is where it was. -/
theorem scanFrom_blockless (cs : List Char) (position : Nat) (hword : IsKeyword word)
    (hfollows : FollowsKeyword prelude) (hp : IsPrelude prelude) :
    ∃ position', scanFrom position (.outside 0) .plain (word ++ (prelude ++ ';' :: cs)) =
      scanFrom position' (.outside 0) .plain cs := by
  have hfollows' : FollowsKeyword (prelude ++ ';' :: cs) := by
    obtain ⟨c, rest, rfl, hc⟩ := hfollows
    exact ⟨c, _, rfl, hc⟩
  have h₁ := scanFrom_keyword position hword hfollows'
  obtain ⟨p₂, s₂, hs₂, h₂⟩ :=
    scanFrom_prelude (position + Size.utf8 word) position hp (show ';' ≠ '*' by decide)
  refine ⟨p₂ + ';'.utf8Size, ?_⟩
  rw [h₁, h₂, scanFrom_bare hs₂ rfl, step_eq_plain hs₂ (by decide)]

/-- Other text gives nothing, and the scanner is where it was. -/
theorem scanFrom_ordinary (position : Nat) (h : IsOrdinary cs) :
    ∃ position', scanFrom position (.outside 0) .plain (cs ++ ahead) =
      scanFrom position' (.outside 0) .plain ahead := by
  obtain ⟨⟨ls, hls, rfl, hordinary⟩, z, hz, hend⟩ := h
  have hslash : z ≠ '/' := by rintro rfl; exact absurd hend (by decide)
  have hlast : Lexeme.EndsBefore ls ahead := by
    intro hl
    obtain ⟨before, rfl⟩ := List.getLast?_eq_some_iff.mp hl
    rw [Lexeme.textAll_append, List.getLast?_append] at hz
    exact absurd (Option.some.inj hz).symm hslash
  have hready := Shield.isReady_plain (textAll ls ++ ahead)
  have hpasses : Passes ahead (.outside 0) ls (.outside 0) :=
    Passes.outside hordinary fun c hc => by rwa [Option.some.inj (hc.symm.trans hz)]
  obtain ⟨position', heq⟩ := scanFrom_textAll position hpasses hls hlast hready
  have hrun : Shield.plain.run (textAll ls) = .plain := by
    have hbare := (Lexeme.isReady_run_textAll hls hlast hready).isBare
    obtain ⟨before, hbefore⟩ := List.getLast?_eq_some_iff.mp hz
    rw [hbefore, Shield.run_append] at hbare ⊢
    exact Shield.eq_plain_of_isBare_step hbare hslash
  exact ⟨position', by rw [heq, hrun]⟩

/-- A part of a stylesheet, with what makes it that part. -/
inductive Item where
  /-- A media rule with a block. -/
  | rule (word prelude body : List Char) (hword : IsKeyword word)
    (hfollows : FollowsKeyword prelude) (hprelude : IsPrelude prelude) (hbody : IsBody body)
  /-- A media rule without a block. -/
  | blockless (word prelude : List Char) (hword : IsKeyword word)
    (hfollows : FollowsKeyword prelude) (hprelude : IsPrelude prelude)
  /-- Any other text. -/
  | other (text : List Char) (h : IsOrdinary text)

namespace Item

/-- An item as it is written. -/
def text : Item → List Char
  | rule word prelude body .. => word ++ (prelude ++ '{' :: (body ++ ['}']))
  | blockless word prelude .. => word ++ (prelude ++ [';'])
  | other text _ => text

/-- The block of an item, if it is a media rule with a block. -/
def block? : Item → Option RawBlock
  | rule _ prelude body .. => some ⟨prelude, body⟩
  | blockless .. => none
  | other .. => none

/-- A stylesheet as it is written. -/
def sheet (items : List Item) : List Char := items.flatMap text

end Item

/-- An item gives its block, if it has one, and the scanner is where it was. -/
theorem scanFrom_item (ahead : List Char) (position : Nat) (item : Item) :
    ∃ position', scanFrom position (.outside 0) .plain (item.text ++ ahead) =
      (item.block?.toList ++ (scanFrom position' (.outside 0) .plain ahead).1,
        (scanFrom position' (.outside 0) .plain ahead).2) := by
  cases item with
  | rule word prelude body hword hfollows hprelude hbody =>
    obtain ⟨position', h⟩ := scanFrom_rule ahead position hword hfollows hprelude hbody
    refine ⟨position', Eq.trans (congrArg _ ?_) h⟩
    simp [Item.text]
  | blockless word prelude hword hfollows hprelude =>
    obtain ⟨position', h⟩ := scanFrom_blockless ahead position hword hfollows hprelude
    refine ⟨position', Eq.trans (congrArg _ ?_) h⟩
    simp [Item.text]
  | other text hordinary => exact scanFrom_ordinary position hordinary

theorem scanFrom_sheet (items : List Item) : ∀ position : Nat,
    scanFrom position (.outside 0) .plain (Item.sheet items) =
      (items.filterMap Item.block?, none) := by
  induction items with
  | nil => intro position; rfl
  | cons item items ih =>
    intro position
    obtain ⟨position', h⟩ := scanFrom_item (Item.sheet items) position item
    rw [Item.sheet, List.flatMap_cons]
    rw [ih position'] at h
    refine h.trans ?_
    cases hblock : item.block? <;> simp [hblock]

/-- From a stylesheet that was written item by item, the blocks of its media rules are read back as
they were written, in order, and nothing else is; nothing is found to be unfinished. -/
theorem blocks_are_read_back (items : List Item) :
    mediaBlocks (Item.sheet items) = items.filterMap Item.block? ∧
      (scan (Item.sheet items)).2 = none := by
  have h := scanFrom_sheet items 0
  exact ⟨congrArg Prod.fst h, congrArg Prod.snd h⟩

/-- A comment, a media rule with a block, and one without. -/
def mixedItems : List Item :=
  [.other "/*\x7b@media x*/ ".toList
      ⟨⟨[.comment "\x7b@media x".toList, .bare ' '],
        ⟨(by decide +kernel : ¬ commentEnd <:+: "\x7b@media x".toList ++ ['*']), by simp, rfl,
          by simp, trivial⟩,
        by decide +kernel,
        .lexeme (by simp) (by simp) (by simp) (.lexeme (by simp) (by simp) (by simp) .nil)⟩,
      ' ', by decide +kernel, rfl⟩,
    .rule "@MEDIA".toList "(max-width: 1px)".toList "a\x7b'\x7d'\x7d".toList (by decide +kernel)
      ⟨'(', "max-width: 1px)".toList, by decide +kernel, Or.inr rfl⟩
      (isPrelude_of_plain (forall_mem_of_all (by decide +kernel)))
      ⟨[.bare 'a', .bare '{', .quoted '\'' ['}'], .bare '}'],
        ⟨rfl, by simp, rfl, by simp, ⟨rfl, .char (by decide) (by decide) .nil⟩, by simp, rfl,
          by simp, trivial⟩,
        by decide +kernel,
        .lexeme (by simp) (by simp) (.block (.lexeme (by simp) (by simp) .nil) .nil)⟩,
    .blockless "@media".toList " print".toList (by decide +kernel)
      ⟨' ', "print".toList, by decide +kernel, Or.inl rfl⟩
      (isPrelude_of_plain (forall_mem_of_all (by decide +kernel)))]

theorem mixed_items_are_read_back :
    String.ofList (Item.sheet mixedItems) =
        "/*\x7b@media x*/ @MEDIA(max-width: 1px)\x7ba\x7b'\x7d'\x7d\x7d@media print;" ∧
      mediaBlocks (Item.sheet mixedItems) =
        [⟨"(max-width: 1px)".toList, "a\x7b'\x7d'\x7d".toList⟩] :=
  ⟨by decide +kernel, (blocks_are_read_back mixedItems).1⟩

end MediaQuery.Css
