import MediaQuery.Proofs.Condition.Comment
import MediaQuery.Proofs.Decimal.Notation

/-!
# Writing conditions

A condition is written as its media type and a clause for each of its bounds, a list of conditions
with commas between them. What is written so is read back: a clause is passed over on the way to the
bound of the other feature, and its own bound is read up to the unit, since the digits that a length
is shown with end where its unit begins.

* `written_conditions_are_read_back` — the law for conditions and for lists of them
-/

namespace MediaQuery

open Blank (allBlank)
open Split (join)

variable {cs rest feature feature' type : List Char} {c : Char} {b : WidthBound}
  {bound : Option WidthBound}

/-- A length that is shown with digits alone: a finite one whose sign is positive. -/
structure WidthBound.IsPlain (b : WidthBound) : Prop where
  finite : b.value.isFinite = true
  positive : (Decimal.Binary.ofFloat b.value).negative = false

/-- The clause for a bound behind a media type; without a bound there is none. -/
def WidthBound.clause (feature : List Char) : Option WidthBound → List Char
  | none => []
  | some b => " and ".toList ++ '(' :: (feature ++ (": ".toList ++ (b.text.toList ++ [')'])))

namespace Condition

/-- A condition as an author writes it: `screen and (min-width: 40em) and (max-width: 60.5em)`. -/
def text (c : Condition) : List Char :=
  c.mediaType.toList ++ (WidthBound.clause "min-width".toList c.minWidth ++
    WidthBound.clause "max-width".toList c.maxWidth)

/-- What is written of a condition says all about it: its media type is a word in small letters and
not the one that is passed over, it is constrained exactly if it has a bound, and its bounds are shown
with digits. -/
structure IsWritable (c : Condition) : Prop where
  word : c.mediaType ≠ ""
  letters : ∀ d ∈ c.mediaType.toList, d.isLower = true
  not_only : c.mediaType ≠ "only"
  constraint : c.hasConstraint = (c.minWidth.isSome || c.maxWidth.isSome)
  min : ∀ b, c.minWidth = some b → b.IsPlain
  max : ∀ b, c.maxWidth = some b → b.IsPlain

end Condition

/-! ## Lengths -/

namespace WidthBound

/-- A length is read back from the digits that it is shown with. -/
theorem IsPlain.isDecimal (h : b.IsPlain) : IsDecimal (Decimal.plain b.value).toList b.value :=
  Decimal.isDecimal_plain h.finite h.positive

theorem toList_text (b : WidthBound) :
    b.text.toList = (Decimal.plain b.value).toList ++ b.unit.text.toList := by
  rw [text, String.toList_append]

/-- A length is shown with digits, points and letters. -/
theorem IsPlain.not_mem_text (h : b.IsPlain) (hnumeral : isNumeral c = false)
    (halpha : c.isAlpha = false) : c ∉ b.text.toList := by
  have hunit : ∀ d ∈ b.unit.text.toList, d.isAlpha = true := by
    cases b.unit <;> exact forall_mem_of_all (by decide)
  rw [toList_text, List.mem_append, not_or]
  constructor
  · intro hmem
    rw [h.isDecimal.isNumeral c hmem] at hnumeral
    exact Bool.noConfusion hnumeral
  · intro hmem
    rw [hunit c hmem] at halpha
    exact Bool.noConfusion halpha

/-- A bound is stated by what is written of it, whatever is behind. -/
theorem IsPlain.statesBound (h : b.IsPlain) (feature rest : List Char) :
    StatesBound feature b (feature ++ (": ".toList ++ (b.text.toList ++ ')' :: rest))) := by
  have hnone : IsSpace [] := by simp [IsSpace]
  have hblank : IsSpace [' '] := forall_mem_of_all (by decide)
  refine ⟨[], feature, [], [' '], (Decimal.plain b.value).toList, b.unit.text.toList, [], rest, ?_,
    ⟨hnone, hnone, hblank, hnone⟩, Ascii.sameLetters_refl _, ?_, Ascii.sameLetters_refl _⟩
  · rw [toList_text, List.append_assoc]
    rfl
  · exact ⟨_, [], (List.append_nil _).symm, h.isDecimal, by simp, Or.inl rfl⟩

end WidthBound

/-! ## Clauses -/

namespace Condition

open WidthBound (clause)

/-- The characters that a list or a bound is parted at. -/
def partingMarks : List Char := ['(', ')', ',']

theorem not_mem_of_mem_features (h : feature ∈ features) (hc : c ∈ partingMarks) : c ∉ feature := by
  have hmin : ∀ c ∈ partingMarks, c ∉ "min-width".toList := forall_mem_of_all (by decide)
  have hmax : ∀ c ∈ partingMarks, c ∉ "max-width".toList := forall_mem_of_all (by decide)
  rcases List.mem_pair.mp h with rfl | rfl
  · exact hmin c hc
  · exact hmax c hc

/-- Inside its parentheses a clause has no mark that anything is parted at. -/
theorem not_mem_bound (hfeature : feature ∈ features) (h : b.IsPlain) (hc : c ∈ partingMarks) :
    c ∉ feature ++ (": ".toList ++ b.text.toList) := by
  have hmarks : ∀ c ∈ partingMarks, isNumeral c = false ∧ c.isAlpha = false ∧ c ∉ ": ".toList :=
    forall_mem_of_all (by decide)
  obtain ⟨hnumeral, halpha, hcolon⟩ := hmarks c hc
  simp only [List.mem_append, not_or]
  exact ⟨not_mem_of_mem_features hfeature hc, hcolon, h.not_mem_text hnumeral halpha⟩

theorem clause_some (feature : List Char) (b : WidthBound) :
    clause feature (some b) =
      " and ".toList ++ '(' :: (feature ++ (": ".toList ++ b.text.toList) ++ [')']) := by
  rw [List.append_assoc, List.append_assoc]
  rfl

theorem findBound_append_of_not_mem (h : '(' ∉ cs) (feature rest : List Char) :
    findBound feature (cs ++ rest) = findBound feature rest := by
  induction cs with
  | nil => rfl
  | cons c cs ih =>
    rw [List.mem_cons, not_or] at h
    rw [List.cons_append, findBound_cons_of_ne _ _ (Ne.symm h.1), ih h.2]

theorem findBound_clause_some (feature feature' rest : List Char) (b : WidthBound) :
    findBound feature (clause feature' (some b) ++ rest) =
      findBound feature ('(' :: (feature' ++ (": ".toList ++ (b.text.toList ++ ')' :: rest)))) := by
  have hand : '(' ∉ " and ".toList := by decide
  rw [clause_some, List.append_assoc, findBound_append_of_not_mem hand]
  simp

/-- The bound of a clause is read where it is looked for. -/
theorem findBound_clause (hfeature : feature ∈ features) (h : ∀ b, bound = some b → b.IsPlain)
    (rest : List Char) :
    findBound feature (clause feature bound ++ rest) = bound.or (findBound feature rest) := by
  cases bound with
  | none => rfl
  | some b =>
    have hread : WidthBound.read? feature
        (feature ++ (": ".toList ++ (b.text.toList ++ ')' :: rest))) = some b :=
      (read?_eq_some_iff_of_mem_features hfeature).mpr ((h b rfl).statesBound feature rest)
    rw [findBound_clause_some, findBound, if_pos (by rfl), hread]
    rfl

/-- No bound is read in a clause for the other feature. -/
theorem read?_eq_none_of_ne (hfeature : feature ∈ features) (hfeature' : feature' ∈ features)
    (hne : feature ≠ feature') (rest : List Char) :
    WidthBound.read? feature (feature' ++ rest) = none := by
  have hmin : "min-width".toList = 'm' :: 'i' :: "n-width".toList := by decide
  have hmax : "max-width".toList = 'm' :: 'a' :: "x-width".toList := by decide
  rcases List.mem_pair.mp hfeature with rfl | rfl <;>
    rcases List.mem_pair.mp hfeature' with rfl | rfl
  · exact absurd rfl hne
  · rw [hmin, hmax]
    rfl
  · rw [hmin, hmax]
    rfl
  · exact absurd rfl hne

theorem findBound_clause_of_ne (hfeature : feature ∈ features) (hfeature' : feature' ∈ features)
    (hne : feature ≠ feature') (h : ∀ b, bound = some b → b.IsPlain) (rest : List Char) :
    findBound feature (clause feature' bound ++ rest) = findBound feature rest := by
  cases bound with
  | none => rfl
  | some b =>
    have hinner : '(' ∉ feature' ++ (": ".toList ++ b.text.toList) :=
      not_mem_bound hfeature' (h b rfl) (by decide)
    have hclose : ')' ≠ '(' := by decide
    rw [findBound_clause_some, findBound, if_pos (by rfl),
      read?_eq_none_of_ne hfeature hfeature' hne, Option.none_or]
    calc findBound feature (feature' ++ (": ".toList ++ (b.text.toList ++ ')' :: rest)))
      _ = findBound feature (feature' ++ (": ".toList ++ b.text.toList) ++ ')' :: rest) := by simp
      _ = findBound feature (')' :: rest) := findBound_append_of_not_mem hinner _ _
      _ = findBound feature rest := findBound_cons_of_ne _ _ hclose

/-! ## Parentheses and commas -/

theorem depthFrom_of_not_mem (hopen : '(' ∉ cs) (hclose : ')' ∉ cs) (depth : Nat) :
    depthFrom depth cs = depth := by
  induction cs with
  | nil => rfl
  | cons c cs ih =>
    rw [List.mem_cons, not_or] at hopen hclose
    have hnest : nest depth c = depth := by
      rw [nest, if_neg (Ne.symm hopen.1), if_neg (Ne.symm hclose.1)]
    rw [depthFrom_cons, hnest, ih hopen.2 hclose.2]

theorem isUndividedFrom_of_not_mem {separator : Char} (h : separator ∉ cs) (depth : Nat) :
    IsUndividedFrom separator depth cs := by
  rintro before after rfl
  exact absurd (by simp) h

theorem depthFrom_clause (hfeature : feature ∈ features) (h : ∀ b, bound = some b → b.IsPlain)
    (depth : Nat) : depthFrom depth (clause feature bound) = depth := by
  cases bound with
  | none => rfl
  | some b =>
    have hinner : ∀ c ∈ partingMarks, c ∉ feature ++ (": ".toList ++ b.text.toList) :=
      fun c hc => not_mem_bound hfeature (h b rfl) hc
    have hand : ∀ c ∈ partingMarks, c ∉ " and ".toList := forall_mem_of_all (by decide)
    rw [clause_some, depthFrom_append, depthFrom_of_not_mem (hand _ (by decide)) (hand _ (by decide)),
      depthFrom_cons, depthFrom_append,
      depthFrom_of_not_mem (hinner _ (by decide)) (hinner _ (by decide))]
    rfl

theorem comma_not_mem_clause (hfeature : feature ∈ features)
    (h : ∀ b, bound = some b → b.IsPlain) : ',' ∉ clause feature bound := by
  cases bound with
  | none => exact List.not_mem_nil
  | some b =>
    have hinner : ',' ∉ feature ++ (": ".toList ++ b.text.toList) :=
      not_mem_bound hfeature (h b rfl) (by decide)
    have hand : ',' ∉ " and ".toList := by decide
    rw [clause_some, List.mem_append, List.mem_cons, List.mem_append]
    simp only [not_or]
    exact ⟨hand, by decide, hinner, by decide⟩

/-! ## Media types -/

theorem isAlpha_of_isLower (h : c.isLower = true) : c.isAlpha = true := by
  rw [Ascii.isAlpha_eq, h, Bool.or_true]

theorem lower_of_isLower (h : ∀ d ∈ type, d.isLower = true) : Ascii.lower type = type := by
  refine (List.map_congr_left fun d hd => ?_).trans (List.map_id type)
  refine Ascii.toLower_of_not_isUpper (Bool.eq_false_iff.mpr fun hupper => ?_)
  have hlow := (Ascii.isLower_iff d).mp (h d hd)
  have hup := (Ascii.isUpper_iff d).mp hupper
  omega

theorem stopsAt_takeWhile {p : Char → Bool} (h : StopsAt p cs) (q : Char → Bool) :
    StopsAt p (cs.takeWhile q) := by
  cases cs with
  | nil => exact stopsAt_nil
  | cons c cs =>
    rw [List.takeWhile_cons]
    split
    · exact stopsAt_cons (h c rfl)
    · exact stopsAt_nil

/-- A clause does not go on with the word in front of it. -/
theorem stopsAt_clause (feature : List Char) (bound : Option WidthBound)
    (hrest : StopsAt Char.isAlpha rest) : StopsAt Char.isAlpha (clause feature bound ++ rest) := by
  cases bound with
  | none => exact hrest
  | some b =>
    have hand : " and ".toList = ' ' :: "and ".toList := by decide
    rw [clause_some, hand]
    exact stopsAt_cons (by decide)

/-- A word in small letters at the start of an entry is its type, if it is not `only`. -/
theorem mediaTypeOf_word (hne : type ≠ []) (hletters : ∀ d ∈ type, d.isLower = true)
    (honly : type ≠ "only".toList) (hrest : StopsAt Char.isAlpha rest) :
    mediaTypeOf (type ++ rest) = type := by
  have halpha : ∀ d ∈ type, d.isAlpha = true := fun d hd => isAlpha_of_isLower (hletters d hd)
  have hopen : ∀ d ∈ type, (d != '(') = true := fun d hd => bne_iff_ne.mpr fun h => by
    rw [h] at hd
    exact absurd (hletters _ hd) (by decide)
  have hword : IsFirstWord type (rest.takeWhile (· != '('))
      ((type ++ rest).takeWhile (· != '(')) :=
    ⟨[], List.takeWhile_append_of_pos hopen, by simp [IsWordless], hne, halpha,
      stopsAt_takeWhile hrest _⟩
  have hnot : ¬ IsOnly type := fun h => by
    rw [IsOnly, Ascii.sameLetters, lower_of_isLower hletters, beq_iff_eq] at h
    exact honly (h.trans (by decide))
  have htype := (NamesType.first hword hnot).mediaTypeOf_eq
  rwa [lower_of_isLower hletters] at htype

/-! ## Conditions -/

variable {condition : Condition}

theorem IsWritable.type_ne_nil (h : condition.IsWritable) : condition.mediaType.toList ≠ [] :=
  fun hnil => h.word (String.toList_eq_nil_iff.mp hnil)

theorem IsWritable.not_mem_type (h : condition.IsWritable) (hc : c.isLower = false) :
    c ∉ condition.mediaType.toList := fun hmem => by
  rw [h.letters c hmem] at hc
  exact Bool.noConfusion hc

theorem IsWritable.mediaTypeOf_text (h : condition.IsWritable) :
    mediaTypeOf condition.text = condition.mediaType.toList := by
  refine mediaTypeOf_word h.type_ne_nil h.letters (fun honly => h.not_only ?_) ?_
  · exact String.toList_inj.mp honly
  · refine stopsAt_clause _ _ ?_
    rw [← List.append_nil (clause _ _)]
    exact stopsAt_clause _ _ stopsAt_nil

theorem IsWritable.findBound_text (h : condition.IsWritable) :
    findBound "min-width".toList condition.text = condition.minWidth ∧
      findBound "max-width".toList condition.text = condition.maxWidth := by
  have hmin : "min-width".toList ∈ features := List.mem_cons_self
  have hmax : "max-width".toList ∈ features := List.mem_cons_of_mem _ List.mem_cons_self
  have hne : "min-width".toList ≠ "max-width".toList := by decide
  have htype : '(' ∉ condition.mediaType.toList := h.not_mem_type (by decide)
  have hnone : ∀ feature, findBound feature [] = none := fun _ => rfl
  constructor
  · calc findBound "min-width".toList condition.text
      _ = findBound "min-width".toList (clause "min-width".toList condition.minWidth ++
            clause "max-width".toList condition.maxWidth) := findBound_append_of_not_mem htype _ _
      _ = condition.minWidth.or (findBound "min-width".toList
            (clause "max-width".toList condition.maxWidth ++ [])) := by
          rw [findBound_clause hmin h.min, List.append_nil]
      _ = condition.minWidth := by
          rw [findBound_clause_of_ne hmin hmax hne h.max, hnone, Option.or_none]
  · calc findBound "max-width".toList condition.text
      _ = findBound "max-width".toList (clause "min-width".toList condition.minWidth ++
            clause "max-width".toList condition.maxWidth) := findBound_append_of_not_mem htype _ _
      _ = findBound "max-width".toList (clause "max-width".toList condition.maxWidth ++ []) := by
          rw [findBound_clause_of_ne hmax hmin (Ne.symm hne) h.min, List.append_nil]
      _ = condition.maxWidth := by
          rw [findBound_clause hmax h.max, hnone, Option.or_none]

theorem IsWritable.read_text (h : condition.IsWritable) : read condition.text = condition := by
  obtain ⟨hmin, hmax⟩ := h.findBound_text
  rw [read, hmin, hmax, h.mediaTypeOf_text, String.ofList_toList, ← h.constraint]

/-! ## Lists -/

/-- What is written of a condition is one entry of a list, wherever it stands there. -/
theorem IsWritable.isEntry (h : condition.IsWritable) :
    openDepth condition.text = 0 ∧ IsUndivided ',' condition.text := by
  have hmin : "min-width".toList ∈ features := List.mem_cons_self
  have hmax : "max-width".toList ∈ features := List.mem_cons_of_mem _ List.mem_cons_self
  constructor
  · rw [openDepth, text, depthFrom_append, depthFrom_append,
      depthFrom_of_not_mem (h.not_mem_type (by decide)) (h.not_mem_type (by decide)),
      depthFrom_clause hmin h.min, depthFrom_clause hmax h.max]
  · refine isUndividedFrom_of_not_mem ?_ 0
    simp only [text, List.mem_append, not_or]
    exact ⟨h.not_mem_type (by decide), comma_not_mem_clause hmin h.min,
      comma_not_mem_clause hmax h.max⟩

theorem IsWritable.allBlank_text (h : condition.IsWritable) : allBlank condition.text = false := by
  obtain ⟨d, word, hword⟩ := List.exists_cons_of_ne_nil h.type_ne_nil
  have hlower : d.isLower = true := h.letters d (by rw [hword]; exact List.mem_cons_self)
  have hblank : Blank.isBlank d = false := Bool.eq_false_iff.mpr fun hblank => by
    have halpha := Blank.isAlpha_of_isBlank hblank
    rw [isAlpha_of_isLower hlower] at halpha
    exact Bool.noConfusion halpha
  rw [text, hword, List.cons_append, Blank.allBlank_cons, hblank, Bool.false_and]

/-- Whatever is written of a condition is read as this condition: its media type, and exactly its
bounds, with their values and units. A list of conditions, written with commas between them, is read
as this list, if there is any condition in it; without one there is nothing to read, and that states
the condition that always holds. -/
theorem written_conditions_are_read_back :
    (∀ condition : Condition, condition.IsWritable → read condition.text = condition) ∧
      (∀ conditions : List Condition, conditions ≠ [] →
        (∀ condition ∈ conditions, condition.IsWritable) →
        readList (join ',' (conditions.map text)) = conditions) ∧
      readList (join ',' (([] : List Condition).map text)) = [all] := by
  refine ⟨fun condition h => h.read_text, fun conditions hne h => ?_, rfl⟩
  have hentries : conditions.map text ≠ [] := fun hnil => hne (List.map_eq_nil_iff.mp hnil)
  have hentry : ∀ entry ∈ conditions.map text,
      (openDepth entry = 0 ∧ IsUndivided ',' entry) ∧ allBlank entry = false := by
    intro entry hmem
    obtain ⟨condition, hcondition, rfl⟩ := List.mem_map.mp hmem
    exact ⟨(h condition hcondition).isEntry, (h condition hcondition).allBlank_text⟩
  have hsplit : split ',' (join ',' (conditions.map text)) = conditions.map text :=
    split_join (by decide) (by decide) hentries fun entry hmem => (hentry entry hmem).1
  have hfilter : (conditions.map text).filter (fun entry => !allBlank entry) =
      conditions.map text :=
    List.filter_eq_self.mpr fun entry hmem => by rw [(hentry entry hmem).2]; rfl
  obtain ⟨entry, hmem⟩ := List.exists_mem_of_ne_nil _ hentries
  rw [readList_eq, hsplit, ofEntries_of_exists ⟨entry, hmem, (hentry entry hmem).2⟩, hfilter,
    List.map_map]
  exact (List.map_congr_left fun condition hcondition =>
    (h condition hcondition).read_text).trans (List.map_id _)

/-- A list with two bounds, one and none. -/
theorem three_written_conditions_are_read_back :
    let conditions : List Condition :=
      [⟨"screen", true, some ⟨600, .px⟩, some ⟨960.5, .px⟩⟩, ⟨"print", true, none, some ⟨40, .em⟩⟩,
        ⟨"tv", false, none, none⟩]
    (conditions ≠ [] ∧ ∀ condition ∈ conditions, condition.IsWritable) ∧
      readList (join ',' (conditions.map text)) = conditions := by
  intro conditions
  have hnone : ∀ b : WidthBound, (none : Option WidthBound) = some b → b.IsPlain := nofun
  have hsmall : ∀ b, some (⟨600, .px⟩ : WidthBound) = some b → b.IsPlain := by
    rintro _ ⟨⟩
    exact ⟨by decide, by decide⟩
  have hlarge : ∀ b, some (⟨960.5, .px⟩ : WidthBound) = some b → b.IsPlain := by
    rintro _ ⟨⟩
    exact ⟨by decide, by decide⟩
  have hem : ∀ b, some (⟨40, .em⟩ : WidthBound) = some b → b.IsPlain := by
    rintro _ ⟨⟩
    exact ⟨by decide, by decide⟩
  have hwritable : ∀ condition ∈ conditions, condition.IsWritable := by
    simp only [conditions, List.forall_mem_cons, List.not_mem_nil, false_implies, implies_true,
      and_true]
    exact ⟨⟨by decide, forall_mem_of_all (by decide), by decide, rfl, hsmall, hlarge⟩,
      ⟨by decide, forall_mem_of_all (by decide), by decide, rfl, hnone, hem⟩,
      ⟨by decide, forall_mem_of_all (by decide), by decide, rfl, hnone, hnone⟩⟩
  have hne : conditions ≠ [] := List.cons_ne_nil _ _
  exact ⟨⟨hne, hwritable⟩, written_conditions_are_read_back.2.1 conditions hne hwritable⟩

/-- Of no condition nothing is written, and what is read in nothing is one condition; and a media
type without letters is read as the one that stands for all. -/
theorem nothing_is_read_as_a_condition :
    readList (join ',' (([] : List Condition).map text)) ≠ [] ∧
      (read (text ⟨"", false, none, none⟩)).mediaType ≠ "" := by
  refine ⟨List.cons_ne_nil _ _, ?_⟩
  decide +kernel

end Condition

end MediaQuery
