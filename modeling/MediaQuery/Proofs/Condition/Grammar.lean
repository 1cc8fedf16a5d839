import MediaQuery.Proofs.Condition.Padding
import MediaQuery.Proofs.Text.Run

/-!
# The grammar of conditions

What a condition reads from its text, said without a reader. A bound stands behind a parenthesis,
complete up to the parenthesis that closes it (`StatesBound`); the first one counts
(`IsFirstBound`). The media type is the first word before all parentheses, or the second where the
first is `only` (`NamesType`).

* `conditions_follow_the_grammar` — a condition states a bound or a type exactly if its text does
-/

namespace MediaQuery

variable {cs run rest word : List Char} {c : Char}

/-! ## Decimals -/

/-- A decimal without a sign, and the double that it is read as: digits, with a point before, behind
or between them. -/
inductive IsDecimal : List Char → Float → Prop where
  | whole {ds : List Char} (hds : ∀ d ∈ ds, d.isDigit = true) (hne : ds ≠ []) :
    IsDecimal ds (Decimal.ofParts ds 0 0)
  | point {ds ds' : List Char} (hds : ∀ d ∈ ds, d.isDigit = true)
    (hds' : ∀ d ∈ ds', d.isDigit = true) (hne : ds ≠ [] ∨ ds' ≠ []) :
    IsDecimal (ds ++ '.' :: ds') (Decimal.ofParts (ds ++ ds') ds'.length 0)

theorem unsigned?_eq_some_iff {x : Float} : Decimal.unsigned? cs = some x ↔ IsDecimal cs x := by
  constructor
  · obtain ⟨ds, rest, rfl, hds, hrest⟩ := exists_run Char.isDigit cs
    intro h
    rw [Decimal.unsigned?, takeWhile_run hds hrest, dropWhile_run hds hrest] at h
    split at h
    · split at h
      · exact absurd h (by simp)
      · next hne =>
        obtain rfl := Option.some.inj h
        rw [List.append_nil]
        exact .whole hds (by simpa using hne)
    · split at h
      · next hds' =>
        obtain rfl := Option.some.inj h
        simp only [Bool.and_eq_true, List.all_eq_true, Bool.not_eq_true', Bool.and_eq_false_iff,
          List.isEmpty_eq_false_iff] at hds'
        exact .point hds hds'.1 hds'.2
      · exact absurd h (by simp)
    · exact absurd h (by simp)
  · intro h
    cases h with
    | whole hds hne =>
      rw [← List.append_nil cs, Decimal.unsigned?, takeWhile_run hds stopsAt_nil,
        dropWhile_run hds stopsAt_nil]
      simp [hne]
    | @point ds ds' hds hds' hne =>
      have hstops : StopsAt Char.isDigit ('.' :: ds') := stopsAt_cons (by decide)
      have htest : (ds'.all Char.isDigit && !(ds.isEmpty && ds'.isEmpty)) = true := by
        simp only [Bool.and_eq_true, List.all_eq_true, Bool.not_eq_true', Bool.and_eq_false_iff,
          List.isEmpty_eq_false_iff]
        exact ⟨hds', hne⟩
      rw [Decimal.unsigned?, takeWhile_run hds hstops, dropWhile_run hds hstops]
      exact if_pos htest

/-- A run of digits and points, and the double that it is read as: what stands before its second
point is a decimal. -/
def IsNumber (run : List Char) (x : Float) : Prop :=
  ∃ decimal more, run = decimal ++ more ∧ IsDecimal decimal x ∧
    (∀ c ∈ more, isNumeral c = true) ∧ (more = [] ∨ '.' ∈ decimal ∧ more.head? = some '.')

theorem IsDecimal.isNumeral {x : Float} (h : IsDecimal cs x) : ∀ c ∈ cs, isNumeral c = true := by
  have hdigit : ∀ c : Char, c.isDigit = true → MediaQuery.isNumeral c = true := fun c hc => by
    simp [MediaQuery.isNumeral, hc]
  cases h with
  | whole hds _ => exact fun c hc => hdigit c (hds c hc)
  | point hds hds' _ =>
    intro c hc
    rcases List.mem_append.mp hc with hc | hc
    · exact hdigit c (hds c hc)
    · rcases List.mem_cons.mp hc with rfl | hc
      · rfl
      · exact hdigit c (hds' c hc)

theorem IsNumber.isNumeral {x : Float} (h : IsNumber run x) :
    ∀ c ∈ run, isNumeral c = true := by
  obtain ⟨decimal, more, rfl, hdecimal, hmore, -⟩ := h
  exact fun c hc => (List.mem_append.mp hc).elim (hdecimal.isNumeral c) (hmore c)

theorem IsNumber.ne_nil {x : Float} (h : IsNumber run x) : run ≠ [] := by
  obtain ⟨decimal, more, rfl, hdecimal, -⟩ := h
  cases hdecimal with
  | whole _ hne => exact List.append_ne_nil_of_left_ne_nil hne _
  | point => simp

/-- What stands before the second point, and what comes from there on. -/
theorem exists_beforeSecondPoint (run : List Char) :
    ∃ more, run = beforeSecondPoint run ++ more ∧
      (more = [] ∨ '.' ∈ beforeSecondPoint run ∧ more.head? = some '.') := by
  obtain ⟨ds, rest, rfl, hds, hrest⟩ := exists_run (· != '.') run
  rw [beforeSecondPoint, takeWhile_run hds hrest, dropWhile_run hds hrest]
  cases rest with
  | nil => exact ⟨[], by simp, Or.inl rfl⟩
  | cons point rest =>
    obtain rfl : point = '.' := by simpa using hrest point rfl
    obtain ⟨ds', more, rfl, hds', hmore⟩ := exists_run (· != '.') rest
    refine ⟨more, ?_, ?_⟩
    · dsimp only
      rw [takeWhile_run hds' hmore]
      simp
    · cases more with
      | nil => exact Or.inl rfl
      | cons c more =>
        obtain rfl : c = '.' := by simpa using hmore c rfl
        exact Or.inr ⟨by simp, rfl⟩

theorem IsDecimal.beforeSecondPoint_append {x : Float} {decimal more : List Char}
    (h : IsDecimal decimal x) (hmore : more = [] ∨ '.' ∈ decimal ∧ more.head? = some '.') :
    beforeSecondPoint (decimal ++ more) = decimal := by
  have hne : ∀ ds : List Char, (∀ d ∈ ds, d.isDigit = true) → ∀ d ∈ ds, (d != '.') = true := by
    intro ds hds d hd
    have hdigit := hds d hd
    simp only [bne_iff_ne]
    rintro rfl
    exact absurd hdigit (by decide)
  cases h with
  | whole hds _ =>
    have hnil : more = [] := hmore.resolve_right fun h => by simpa using hne _ hds '.' h.1
    have hstops : StopsAt (· != '.') ([] : List Char) := stopsAt_nil
    rw [hnil, beforeSecondPoint, takeWhile_run (hne _ hds) hstops, dropWhile_run (hne _ hds) hstops]
    exact List.append_nil _
  | @point ds ds' hds hds' _ =>
    have hstops : StopsAt (· != '.') ('.' :: (ds' ++ more)) := stopsAt_cons (by decide)
    have hstops' : StopsAt (· != '.') more := by
      rcases hmore with rfl | ⟨-, hpoint⟩
      · exact stopsAt_nil
      · intro c hc
        rw [hpoint] at hc
        simp [← Option.some.inj hc]
    rw [List.append_assoc, List.cons_append, beforeSecondPoint, takeWhile_run (hne _ hds) hstops,
      dropWhile_run (hne _ hds) hstops]
    dsimp only
    rw [takeWhile_run (hne _ hds') hstops']

theorem isNumber_iff {x : Float} (hrun : ∀ c ∈ run, isNumeral c = true) :
    Decimal.unsigned? (beforeSecondPoint run) = some x ↔ IsNumber run x := by
  rw [unsigned?_eq_some_iff]
  constructor
  · intro h
    obtain ⟨more, heq, hmore⟩ := exists_beforeSecondPoint run
    refine ⟨_, more, heq, h, fun c hc => hrun c ?_, hmore⟩
    rw [heq]
    exact List.mem_append_right _ hc
  · rintro ⟨decimal, more, rfl, hdecimal, -, hmore⟩
    rwa [hdecimal.beforeSecondPoint_append hmore]

/-! ## Bounds -/

/-- What a spelling of a word begins with. -/
theorem exists_of_sameLetters {spelled : List Char} {w : Char}
    (h : Ascii.sameLetters spelled (w :: word) = true) :
    ∃ c rest, spelled = c :: rest ∧ c.toLower = w.toLower := by
  rw [Ascii.sameLetters, beq_iff_eq] at h
  obtain ⟨c, rest, rfl, hc, -⟩ := List.map_eq_cons_iff.mp h
  exact ⟨c, rest, rfl, hc⟩

/-- A word whose first letter is no white space is found behind white space, in any spelling. -/
theorem dropSpaced?_eq_some_iff {w : Char} (hw : Blank.isBlank w.toLower = false) :
    dropSpaced? (w :: word) cs = some rest ↔
      ∃ before spelled after, cs = before ++ (spelled ++ (after ++ rest)) ∧ IsSpace before ∧
        Ascii.sameLetters spelled (w :: word) = true ∧ IsSpace after ∧
        StopsAt Ascii.isSpace rest := by
  rw [dropSpaced?, Option.map_eq_some_iff]
  constructor
  · rintro ⟨behind, hword, rfl⟩
    obtain ⟨spelled, heq, hspelled⟩ := Ascii.dropWord?_eq_some_iff.mp hword
    obtain ⟨before, hcs, hbefore, -⟩ := exists_space cs
    obtain ⟨after, hbehind, hafter, hrest⟩ := exists_space behind
    refine ⟨before, spelled, after, ?_, hbefore, hspelled, hafter, hrest⟩
    rw [← hbehind, ← heq]
    exact hcs
  · rintro ⟨before, spelled, after, rfl, hbefore, hspelled, hafter, hrest⟩
    have hstops : StopsAt Ascii.isSpace (spelled ++ (after ++ rest)) := by
      obtain ⟨c, letters, rfl, hc⟩ := exists_of_sameLetters hspelled
      refine stopsAt_cons (Bool.eq_false_iff.mpr fun hspace => ?_)
      have hblank := Ascii.isBlank_of_isSpace hspace
      rw [← hc, Ascii.toLower_of_isBlank hblank, hblank] at hw
      exact Bool.noConfusion hw
    rw [skipSpace_run hbefore hstops]
    exact ⟨after ++ rest, Ascii.dropWord?_eq_some_iff.mpr ⟨spelled, rfl, hspelled⟩,
      skipSpace_run hafter hrest⟩

theorem LengthUnit.read?_eq_some_iff {unit : LengthUnit} :
    read? cs = some (unit, rest) ↔
      ∃ spelled, cs = spelled ++ rest ∧ Ascii.sameLetters spelled unit.text.toList = true := by
  have hpx : px.text.toList = ['p', 'x'] := by decide +kernel
  have hem : em.text.toList = ['e', 'm'] := by decide +kernel
  rw [read?]
  constructor
  · intro h
    split at h
    · next rest' hword =>
      obtain ⟨rfl, rfl⟩ := Prod.mk.inj (Option.some.inj h)
      rw [hpx]
      exact Ascii.dropWord?_eq_some_iff.mp hword
    · obtain ⟨rest', hword, heq⟩ := Option.map_eq_some_iff.mp h
      obtain ⟨rfl, rfl⟩ := Prod.mk.inj heq
      rw [hem]
      exact Ascii.dropWord?_eq_some_iff.mp hword
  · rintro ⟨spelled, rfl, hspelled⟩
    cases unit with
    | px =>
      rw [hpx] at hspelled
      rw [Ascii.dropWord?_eq_some_iff.mpr ⟨spelled, rfl, hspelled⟩]
    | em =>
      rw [hem] at hspelled
      -- the two units begin with different letters
      have hnot : Ascii.dropWord? ['p', 'x'] (spelled ++ rest) = none := by
        obtain ⟨c, letters, rfl, hc⟩ := exists_of_sameLetters hspelled
        rw [List.cons_append, Ascii.dropWord?, if_neg]
        rw [hc]
        decide
      rw [hnot, Ascii.dropWord?_eq_some_iff.mpr ⟨spelled, rfl, hspelled⟩]
      rfl

/-- A text, as it stands behind a parenthesis, begins with a bound for a feature: the name of the
feature, a colon, a number, a unit directly behind it and a closing parenthesis, with white space
around the name, behind the colon and behind the unit, and names in any letter case. -/
def StatesBound (feature : List Char) (b : WidthBound) (cs : List Char) : Prop :=
  ∃ space₁ name space₂ space₃ number unit space₄ rest,
    cs = space₁ ++ (name ++ (space₂ ++ ':' ::
      (space₃ ++ (number ++ (unit ++ (space₄ ++ ')' :: rest)))))) ∧
    (IsSpace space₁ ∧ IsSpace space₂ ∧ IsSpace space₃ ∧ IsSpace space₄) ∧
    Ascii.sameLetters name feature = true ∧ IsNumber number b.value ∧
    Ascii.sameLetters unit b.unit.text.toList = true

/-- A letter does not belong to the number of a length, in either case. -/
theorem isNumeral_of_toLower {d : Char} (h : c.toLower = d) (hd : d.isLower = true) :
    isNumeral c = false := by
  rw [Bool.eq_false_iff]
  intro hnumeral
  rw [isNumeral_iff] at hnumeral
  have hself : c.toLower = c := Ascii.toLower_of_not_isUpper (Bool.eq_false_iff.mpr fun hupper => by
    have hbounds := (Ascii.isUpper_iff c).mp hupper
    omega)
  rw [← h, hself, Ascii.isLower_iff] at hd
  omega

theorem LengthUnit.stopsAt_spelling {unit : LengthUnit} {spelled : List Char}
    (h : Ascii.sameLetters spelled unit.text.toList = true) :
    StopsAt MediaQuery.isNumeral (spelled ++ rest) := by
  obtain ⟨letter, letters, htext, hlower⟩ : ∃ letter letters,
      unit.text.toList = letter :: letters ∧ letter.toLower.isLower = true := by
    cases unit
    · exact ⟨'p', ['x'], by decide +kernel, by decide⟩
    · exact ⟨'e', ['m'], by decide +kernel, by decide⟩
  rw [htext] at h
  obtain ⟨c, spelled, rfl, hc⟩ := exists_of_sameLetters h
  exact stopsAt_cons (isNumeral_of_toLower hc hlower)

theorem IsNumber.stopsAt_isSpace {x : Float} (h : IsNumber run x) :
    StopsAt Ascii.isSpace (run ++ rest) := by
  obtain ⟨c, run, rfl⟩ := List.exists_cons_of_ne_nil h.ne_nil
  refine stopsAt_cons (Bool.eq_false_iff.mpr fun hspace => ?_)
  have hnumeral := h.isNumeral c List.mem_cons_self
  rw [Blank.isNumeral_of_isBlank (Ascii.isBlank_of_isSpace hspace)] at hnumeral
  exact Bool.noConfusion hnumeral

/-- A colon has one spelling. -/
theorem dropSpaced?_colon_eq_some_iff :
    dropSpaced? [':'] cs = some rest ↔
      ∃ before after, cs = before ++ ':' :: (after ++ rest) ∧ IsSpace before ∧ IsSpace after ∧
        StopsAt Ascii.isSpace rest := by
  rw [dropSpaced?_eq_some_iff (by decide)]
  constructor
  · rintro ⟨before, spelled, after, rfl, hbefore, hspelled, hafter, hrest⟩
    obtain ⟨c, more, rfl, hc, hmore⟩ := List.map_eq_cons_iff.mp (beq_iff_eq.mp hspelled)
    obtain rfl := List.map_eq_nil_iff.mp hmore
    obtain rfl : c = ':' := Ascii.eq_of_toLower_eq hc (by decide)
    exact ⟨before, after, rfl, hbefore, hafter, hrest⟩
  · rintro ⟨before, after, rfl, hbefore, hafter, hrest⟩
    exact ⟨before, [':'], after, rfl, hbefore, Ascii.sameLetters_refl _, hafter, hrest⟩

theorem dropSpaced?_colon {space : List Char} (hspace : IsSpace space)
    (hrest : StopsAt Ascii.isSpace rest) :
    dropSpaced? [':'] (':' :: (space ++ rest)) = some rest :=
  dropSpaced?_colon_eq_some_iff.mpr ⟨[], space, rfl, by simp [IsSpace], hspace, hrest⟩

/-- A bound is read where a text begins with one. -/
theorem WidthBound.read?_eq_some_iff {w : Char} {b : WidthBound}
    (hw : Blank.isBlank w.toLower = false) :
    read? (w :: word) cs = some b ↔ StatesBound (w :: word) b cs := by
  constructor
  · intro h
    -- the reader succeeds only if each of its parts does, and each has its own grammar
    obtain ⟨colon, hname, hbound⟩ := Option.bind_eq_some_iff.mp h
    obtain ⟨behind, hcolon, hlength⟩ := Option.bind_eq_some_iff.mp hbound
    obtain ⟨value, hvalue, hunit⟩ := Option.bind_eq_some_iff.mp hlength
    obtain ⟨⟨unit, after⟩, hunit, hclosed⟩ := Option.bind_eq_some_iff.mp hunit
    obtain ⟨space₁, name, space₂, rfl, hspace₁, hspelled, hspace₂, -⟩ :=
      (dropSpaced?_eq_some_iff hw).mp hname
    obtain ⟨space, space₃, rfl, hspace, hspace₃, -⟩ := dropSpaced?_colon_eq_some_iff.mp hcolon
    obtain ⟨number, units, rfl, hnumber, hunits⟩ := exists_run isNumeral behind
    rw [takeWhile_run hnumber hunits, isNumber_iff hnumber] at hvalue
    rw [dropWhile_run hnumber hunits] at hunit
    obtain ⟨spelled, rfl, hspelled'⟩ := LengthUnit.read?_eq_some_iff.mp hunit
    obtain ⟨space₄, hafter, hspace₄, -⟩ := exists_space after
    dsimp only at hclosed
    split at hclosed
    · next rest hrest =>
      obtain rfl := Option.some.inj hclosed
      rw [hrest] at hafter
      -- the white space in front of the colon is read in two parts
      have hspaces : IsSpace (space₂ ++ space) := fun c hc =>
        (List.mem_append.mp hc).elim (hspace₂ c) (hspace c)
      refine ⟨space₁, name, space₂ ++ space, space₃, number, spelled, space₄, rest, ?_,
        ⟨hspace₁, hspaces, hspace₃, hspace₄⟩, hspelled, hvalue, hspelled'⟩
      rw [hafter, List.append_assoc space₂]
    · exact absurd hclosed (by simp)
  · rintro ⟨space₁, name, space₂, space₃, number, unit, space₄, rest, rfl,
      ⟨hspace₁, hspace₂, hspace₃, hspace₄⟩, hname, hnumber, hunit⟩
    have hunits : StopsAt isNumeral (unit ++ (space₄ ++ ')' :: rest)) :=
      LengthUnit.stopsAt_spelling hunit
    have hcolon : StopsAt Ascii.isSpace (':' :: (space₃ ++ (number ++ (unit ++
        (space₄ ++ ')' :: rest))))) := stopsAt_cons (by decide)
    rw [read?, (dropSpaced?_eq_some_iff hw).mpr
      ⟨space₁, name, space₂, rfl, hspace₁, hname, hspace₂, hcolon⟩]
    simp only [Option.bind_eq_bind, Option.bind_some]
    rw [dropSpaced?_colon hspace₃ hnumber.stopsAt_isSpace]
    simp only [Option.bind_some]
    rw [takeWhile_run hnumber.isNumeral hunits, dropWhile_run hnumber.isNumeral hunits,
      (isNumber_iff hnumber.isNumeral).mpr hnumber,
      LengthUnit.read?_eq_some_iff.mpr ⟨unit, rfl, hunit⟩]
    simp only [Option.bind_some]
    rw [skipSpace_run hspace₄ (stopsAt_cons (by decide))]
    rfl

/-! ## The first bound -/

/-- The first parenthesis of a text behind which it states a bound for a feature states this one. -/
def IsFirstBound (feature : List Char) (b : WidthBound) (cs : List Char) : Prop :=
  ∃ before after, cs = before ++ '(' :: after ∧ StatesBound feature b after ∧
    ∀ before' after', cs = before' ++ '(' :: after' → before'.length < before.length →
      ∀ b', ¬ StatesBound feature b' after'

theorem isFirstBound_open_of_statesBound {feature : List Char} {b : WidthBound}
    (h : StatesBound feature b cs) : IsFirstBound feature b ('(' :: cs) :=
  ⟨[], cs, rfl, h, fun _ _ _ hlt => absurd hlt (Nat.not_lt_zero _)⟩

/-- A character that is not such a parenthesis has no say in which one is the first. -/
theorem isFirstBound_cons_iff {feature : List Char} {b : WidthBound}
    (hc : c = '(' → ∀ b', ¬ StatesBound feature b' cs) :
    IsFirstBound feature b (c :: cs) ↔ IsFirstBound feature b cs := by
  constructor
  · rintro ⟨before, after, heq, hb, hfirst⟩
    cases before with
    | nil =>
      obtain ⟨rfl, rfl⟩ := List.cons.inj heq
      exact absurd hb (hc rfl b)
    | cons d before =>
      obtain ⟨rfl, rfl⟩ := List.cons.inj heq
      refine ⟨before, after, rfl, hb, fun before' after' heq' hlt => ?_⟩
      exact hfirst (c :: before') after' (by rw [heq', List.cons_append]) (Nat.succ_lt_succ hlt)
  · rintro ⟨before, after, rfl, hb, hfirst⟩
    refine ⟨c :: before, after, rfl, hb, fun before' after' heq hlt => ?_⟩
    cases before' with
    | nil =>
      obtain ⟨rfl, rfl⟩ := List.cons.inj heq
      exact hc rfl
    | cons d before' =>
      exact hfirst before' after' (List.cons.inj heq).2 (Nat.lt_of_succ_lt_succ hlt)

theorem findBound_eq_some_iff {w : Char} {b : WidthBound} (hw : Blank.isBlank w.toLower = false) :
    findBound (w :: word) cs = some b ↔ IsFirstBound (w :: word) b cs := by
  induction cs with
  | nil =>
    refine iff_of_false (by simp [findBound]) ?_
    rintro ⟨before, after, heq, -⟩
    exact absurd heq (by simp)
  | cons c cs ih =>
    by_cases hc : c = '('
    · subst hc
      rw [findBound, if_pos (by rfl)]
      cases hread : WidthBound.read? (w :: word) cs with
      | some first =>
        have hfirst := (WidthBound.read?_eq_some_iff hw).mp hread
        rw [Option.some_or, Option.some.injEq]
        constructor
        · rintro rfl
          exact isFirstBound_open_of_statesBound hfirst
        · rintro ⟨before, after, heq, hb, hleast⟩
          cases before with
          | nil =>
            obtain ⟨-, rfl⟩ := List.cons.inj heq
            rw [(WidthBound.read?_eq_some_iff hw).mpr hb] at hread
            exact (Option.some.inj hread).symm
          | cons d before => exact absurd hfirst (hleast [] cs rfl (Nat.succ_pos _) first)
      | none =>
        rw [Option.none_or, ih, isFirstBound_cons_iff]
        intro _ b' hb'
        rw [(WidthBound.read?_eq_some_iff hw).mpr hb'] at hread
        exact absurd hread (by simp)
    · rw [findBound_cons_of_ne _ _ hc, ih, isFirstBound_cons_iff fun heq => absurd heq hc]

/-! ## The media type -/

/-- A text is without letters. -/
def IsWordless (cs : List Char) : Prop := ∀ c ∈ cs, c.isAlpha = false

/-- The first word of a text, with what follows it: a longest run of letters behind none. -/
def IsFirstWord (word rest cs : List Char) : Prop :=
  ∃ junk, cs = junk ++ (word ++ rest) ∧ IsWordless junk ∧ word ≠ [] ∧
    (∀ c ∈ word, c.isAlpha = true) ∧ StopsAt Char.isAlpha rest

/-- A word is `only`, in any letter case. -/
def IsOnly (word : List Char) : Prop := Ascii.sameLetters word ['o', 'n', 'l', 'y'] = true

/-- The media type that the text before all parentheses names: its first word, or the second where
the first is `only`. -/
inductive NamesType : (front type : List Char) → Prop where
  | default {front : List Char} (h : IsWordless front) : NamesType front ['a', 'l', 'l']
  | first {front word rest : List Char} (h : IsFirstWord word rest front) (hnot : ¬ IsOnly word) :
    NamesType front (Ascii.lower word)
  /-- The only word is the type, whatever it is. -/
  | alone {front word rest : List Char} (h : IsFirstWord word rest front)
    (hrest : IsWordless rest) : NamesType front (Ascii.lower word)
  | second {front word rest word' rest' : List Char} (h : IsFirstWord word rest front)
    (honly : IsOnly word) (h' : IsFirstWord word' rest' rest) : NamesType front (Ascii.lower word')

/-- A text has no word, or a first one. -/
theorem isWordless_or_firstWord (cs : List Char) :
    IsWordless cs ∨ ∃ word rest, IsFirstWord word rest cs := by
  obtain ⟨junk, letters, rfl, hjunk, hletters⟩ := exists_run (fun c => !c.isAlpha) cs
  obtain ⟨word, rest, rfl, hword, hrest⟩ := exists_run Char.isAlpha letters
  have hjunk' : IsWordless junk := fun c hc => by simpa using hjunk c hc
  cases word with
  | cons a word => exact Or.inr ⟨a :: word, rest, junk, rfl, hjunk', by simp, hword, hrest⟩
  | nil =>
    -- what follows the characters without letters begins with no letter, nor with anything else
    left
    cases rest with
    | nil => simpa using hjunk'
    | cons c rest =>
      have hletter : c.isAlpha = true := by simpa using hletters c rfl
      rw [hrest c rfl] at hletter
      exact Bool.noConfusion hletter

theorem letterRuns_of_isWordless (h : IsWordless cs) : letterRuns cs = [] := by
  induction cs with
  | nil => rfl
  | cons c cs ih =>
    rw [letterRuns_cons_of_not_isAlpha _ (h c List.mem_cons_self)]
    exact ih fun d hd => h d (List.mem_cons_of_mem _ hd)

theorem letterRuns_word_append (hne : word ≠ []) (hword : ∀ c ∈ word, c.isAlpha = true)
    (hrest : StopsAt Char.isAlpha rest) : letterRuns (word ++ rest) = word :: letterRuns rest := by
  induction word with
  | nil => exact absurd rfl hne
  | cons c word ih =>
    have hc := hword c List.mem_cons_self
    cases word with
    | nil =>
      rw [List.singleton_append, letterRuns.eq_def]
      cases rest with
      | nil => simp [hc, letterRuns]
      | cons d rest =>
        have hd := hrest d rfl
        cases hruns : letterRuns (d :: rest) <;> simp [hc, hd, hruns]
    | cons d word =>
      have hd := hword d (by simp)
      have htail := ih (by simp) fun a ha => hword a (List.mem_cons_of_mem _ ha)
      rw [List.cons_append] at htail
      rw [List.cons_append, List.cons_append, letterRuns.eq_def]
      simp [hc, hd, htail]

theorem IsFirstWord.letterRuns_eq (h : IsFirstWord word rest cs) :
    letterRuns cs = word :: letterRuns rest := by
  obtain ⟨junk, rfl, hjunk, hne, hword, hrest⟩ := h
  induction junk with
  | nil => exact letterRuns_word_append hne hword hrest
  | cons c junk ih =>
    rw [List.cons_append, letterRuns_cons_of_not_isAlpha _ (hjunk c List.mem_cons_self)]
    exact ih fun d hd => hjunk d (List.mem_cons_of_mem _ hd)

theorem NamesType.mediaTypeOf_eq {type : List Char}
    (h : NamesType (cs.takeWhile (· != '(')) type) : mediaTypeOf cs = type := by
  cases h with
  | default h => rw [mediaTypeOf, letterRuns_of_isWordless h]
  | @first word rest h hnot =>
    rw [mediaTypeOf, h.letterRuns_eq]
    cases letterRuns rest with
    | nil => rfl
    | cons second words => exact congrArg _ (if_neg hnot)
  | alone h hrest => rw [mediaTypeOf, h.letterRuns_eq, letterRuns_of_isWordless hrest]
  | second h honly h' =>
    rw [mediaTypeOf, h.letterRuns_eq, h'.letterRuns_eq]
    exact congrArg _ (if_pos honly)

theorem exists_namesType (front : List Char) : ∃ type, NamesType front type := by
  rcases isWordless_or_firstWord front with h | ⟨word, rest, h⟩
  · exact ⟨_, .default h⟩
  by_cases honly : IsOnly word
  · rcases isWordless_or_firstWord rest with hrest | ⟨word', rest', h'⟩
    · exact ⟨_, .alone h hrest⟩
    · exact ⟨_, .second h honly h'⟩
  · exact ⟨_, .first h honly⟩

/-- The type of an entry is what the text before its first parenthesis names. -/
theorem mediaTypeOf_eq_iff {type : List Char} :
    mediaTypeOf cs = type ↔ NamesType (cs.takeWhile (· != '(')) type := by
  constructor
  · rintro rfl
    obtain ⟨type, h⟩ := exists_namesType (cs.takeWhile (· != '('))
    rwa [h.mediaTypeOf_eq]
  · exact NamesType.mediaTypeOf_eq

theorem Ascii.isLower_toLower (h : c.isAlpha = true) : c.toLower.isLower = true := by
  rcases Bool.eq_false_or_eq_true c.isUpper with hupper | hupper
  · have hbounds := (isUpper_iff c).mp hupper
    rw [isLower_iff, toNat_toLower hupper]
    omega
  · rw [toLower_of_not_isUpper hupper]
    exact ((Bool.or_eq_true _ _).mp h).resolve_left (by simp [hupper])

theorem IsFirstWord.lower_ne_nil (h : IsFirstWord word rest cs) : Ascii.lower word ≠ [] := by
  obtain ⟨junk, -, -, hne, -⟩ := h
  simpa [Ascii.lower] using hne

theorem IsFirstWord.isLower (h : IsFirstWord word rest cs) :
    ∀ c ∈ Ascii.lower word, c.isLower = true := by
  obtain ⟨junk, -, -, -, hword, -⟩ := h
  intro c hc
  obtain ⟨d, hd, rfl⟩ := List.mem_map.mp hc
  exact Ascii.isLower_toLower (hword d hd)

/-- A type is a word in small letters. -/
theorem NamesType.isWord {front type : List Char} (h : NamesType front type) :
    type ≠ [] ∧ ∀ c ∈ type, c.isLower = true := by
  cases h with
  | default => exact ⟨by simp, forall_mem_of_all (by decide)⟩
  | first h | alone h | second _ _ h => exact ⟨h.lower_ne_nil, h.isLower⟩

/-! ## Conditions -/

theorem isSome_or_eq_true_iff {α : Type} {a b : Option α} :
    (a.isSome || b.isSome) = true ↔ ∃ x, a = some x ∨ b = some x := by
  rw [Bool.or_eq_true, Option.isSome_iff_exists, Option.isSome_iff_exists, exists_or]

namespace Condition

/-- A text names a media type before its first parenthesis. -/
def StatesType (type cs : List Char) : Prop :=
  ∃ front rest, cs = front ++ rest ∧ '(' ∉ front ∧ StopsAt (· != '(') rest ∧ NamesType front type

theorem statesType_iff {type : List Char} :
    StatesType type cs ↔ NamesType (cs.takeWhile (· != '(')) type := by
  constructor
  · rintro ⟨front, rest, rfl, hfront, hrest, h⟩
    rwa [takeWhile_run (fun c hc => by simpa using ne_of_mem_of_not_mem hc hfront) hrest]
  · intro h
    obtain ⟨front, rest, rfl, hfront, hrest⟩ := exists_run (· != '(') cs
    rw [takeWhile_run hfront hrest] at h
    exact ⟨front, rest, rfl, fun hmem => by simpa using hfront _ hmem, hrest, h⟩

/-- A condition has exactly the bounds that its text states first for either feature, and is
constrained exactly if there is one; its media type is the one that its text names, a word in small
letters. -/
theorem conditions_follow_the_grammar (cs : List Char) :
    (∀ b, (read cs).minWidth = some b ↔ IsFirstBound "min-width".toList b cs) ∧
      (∀ b, (read cs).maxWidth = some b ↔ IsFirstBound "max-width".toList b cs) ∧
      ((read cs).hasConstraint = true ↔
        ∃ b, (read cs).minWidth = some b ∨ (read cs).maxWidth = some b) ∧
      (∀ type, (read cs).mediaType = String.ofList type ↔ StatesType type cs) ∧
      (read cs).mediaType ≠ "" ∧ ∀ c ∈ (read cs).mediaType.toList, c.isLower = true := by
  have hmin : "min-width".toList = 'm' :: "in-width".toList := by decide +kernel
  have hmax : "max-width".toList = 'm' :: "ax-width".toList := by decide +kernel
  have hm : Blank.isBlank 'm'.toLower = false := by decide
  have htype : ∀ type, mediaTypeOf cs = type ↔ StatesType type cs := fun type =>
    mediaTypeOf_eq_iff.trans statesType_iff.symm
  obtain ⟨hne, hlower⟩ := (mediaTypeOf_eq_iff.mp (rfl : mediaTypeOf cs = _)).isWord
  refine ⟨fun b => ?_, fun b => ?_, isSome_or_eq_true_iff, fun type => ?_, ?_, ?_⟩
  · rw [hmin]
    exact findBound_eq_some_iff hm
  · rw [hmax]
    exact findBound_eq_some_iff hm
  · exact String.ofList_inj.trans (htype type)
  · intro hempty
    exact hne (String.ofList_inj.mp hempty)
  · intro c hc
    rw [read, String.toList_ofList] at hc
    exact hlower c hc

end Condition

end MediaQuery
