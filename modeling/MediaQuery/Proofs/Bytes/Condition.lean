import MediaQuery.Bytes.Condition
import MediaQuery.Proofs.Bytes.Encoding
import MediaQuery.Proofs.Text.Run

/-!
# Media query lists by byte

Read through its bytes, a media query list gives the conditions that it gives when it is read
through its characters, and no reader of it slips. Where one stops is told by the text that is left
there (`IsLeft`): behind white space and behind the words of a bound this is what the reader of
characters has left, and the bytes of a number are those of a text.

* `readList_eq` — the law for media query lists
-/

namespace MediaQuery.Bytes

variable {c d : Char} {cs rest word feature : List Char} {b : UInt8} {bytes : List UInt8} {i : Nat}

/-! ## Numbers -/

theorem isAsciiClass_isNumeral : IsAsciiClass isNumeral :=
  isAsciiClass_of_false fun c hc => Bool.eq_false_iff.mpr fun hnumeral => by
    simp only [isNumeral, Bool.or_eq_true, beq_iff_eq] at hnumeral
    rcases hnumeral with hdigit | rfl
    · have hlast : '9'.toNat < 128 := by decide
      have hbounds := Char.isDigit_iff_toNat.mp hdigit
      omega
    · exact absurd hc (by decide)

theorem indexOf?_cons_of_ne (h : d ≠ c) (n : Nat) (cs : List Char) :
    indexOf? c n (d :: cs) = (indexOf? c n cs).map (· + d.utf8Size) := by
  cases n <;> rw [indexOf?, if_neg (by simpa using h)]

theorem indexOf?_append {a : List Char} (h : c ∉ a) (n : Nat) (cs : List Char) :
    indexOf? c n (a ++ cs) = (indexOf? c n cs).map (· + Size.utf8 a) := by
  induction a with
  | nil => simp
  | cons d a ih =>
    rw [List.mem_cons, not_or] at h
    rw [List.cons_append, indexOf?_cons_of_ne (Ne.symm h.1), ih h.2, Option.map_map]
    refine congrArg (Option.map · _) (funext fun i => ?_)
    simp only [Function.comp_apply, Size.utf8_cons]
    omega

theorem indexOf?_of_not_mem (h : c ∉ cs) (n : Nat) : indexOf? c n cs = none := by
  rw [← List.append_nil cs, indexOf?_append h]
  rfl

theorem beforeSecondPoint_of_not_mem {a : List Char} (h : '.' ∉ a) : beforeSecondPoint a = a := by
  have hne : ∀ c ∈ a, (c != '.') = true := fun c hc => bne_iff_ne.mpr (ne_of_mem_of_not_mem hc h)
  rw [← List.append_nil a, beforeSecondPoint, takeWhile_run hne stopsAt_nil,
    dropWhile_run hne stopsAt_nil]

theorem beforeSecondPoint_append {a : List Char} (h : '.' ∉ a) (rest : List Char) :
    beforeSecondPoint (a ++ '.' :: rest) = a ++ '.' :: rest.takeWhile (· != '.') := by
  have hne : ∀ c ∈ a, (c != '.') = true := fun c hc => bne_iff_ne.mpr (ne_of_mem_of_not_mem hc h)
  have hstops : StopsAt (· != '.') ('.' :: rest) := stopsAt_cons (by decide)
  rw [beforeSecondPoint, takeWhile_run hne hstops, dropWhile_run hne hstops]

/-- A run of digits and points is cut off at its second point. -/
theorem leadingFloat_eq (run : List Char) :
    leadingFloat run = .ok (Decimal.unsigned? (beforeSecondPoint run)) := by
  by_cases hfirst : '.' ∈ run
  · obtain ⟨a, rest, rfl, ha⟩ := List.eq_append_cons_of_mem hfirst
    by_cases hsecond : '.' ∈ rest
    · obtain ⟨b, more, rfl, hb⟩ := List.eq_append_cons_of_mem hsecond
      have hne : ∀ c ∈ b, (c != '.') = true := fun c hc =>
        bne_iff_ne.mpr (ne_of_mem_of_not_mem hc hb)
      have hindex : indexOf? '.' 1 (a ++ '.' :: (b ++ '.' :: more)) =
          some (Size.utf8 (a ++ '.' :: b)) := by
        rw [indexOf?_append ha, indexOf?, if_pos (by decide)]
        rw [indexOf?_append hb, indexOf?, if_pos (by decide)]
        simp only [Option.map_some, Size.utf8_append, Size.utf8_cons]
        exact congrArg some (by omega)
      have htext : a ++ '.' :: (b ++ '.' :: more) = (a ++ '.' :: b) ++ '.' :: more := by simp
      rw [leadingFloat, hindex, beforeSecondPoint_append ha, takeWhile_run hne
        (stopsAt_cons (by decide)), htext]
      dsimp only
      rw [textTo_append]
      rfl
    · -- there is only one point, so the whole run is read
      have hne : ∀ c ∈ rest, (c != '.') = true := fun c hc =>
        bne_iff_ne.mpr (ne_of_mem_of_not_mem hc hsecond)
      have hindex : indexOf? '.' 1 (a ++ '.' :: rest) = none := by
        rw [indexOf?_append ha, indexOf?, if_pos (by decide)]
        rw [indexOf?_of_not_mem hsecond]
        rfl
      have hall : rest.takeWhile (· != '.') = rest := by
        rw [← List.append_nil rest, takeWhile_run hne stopsAt_nil, List.append_nil]
      rw [leadingFloat, hindex, beforeSecondPoint_append ha, hall]
      rfl
  · rw [leadingFloat, indexOf?_of_not_mem hfirst, beforeSecondPoint_of_not_mem hfirst]
    rfl

/-! ## Bounds -/

theorem unitText_ascii (unit : LengthUnit) : ∀ w ∈ unit.text.toList, w.toNat < 128 := by
  cases unit <;> exact forall_mem_of_all (by decide +kernel)

/-- The unit that stands at an index, and what is left behind it. -/
theorem unitAt_eq (h : IsLeft bytes i cs) :
    unitAt bytes i = (LengthUnit.read? cs).map Prod.fst ∧
      ∀ unit rest, LengthUnit.read? cs = some (unit, rest) →
        IsLeft bytes (i + unit.text.toList.length) rest := by
  have hpx : Ascii.dropWord? LengthUnit.px.text.toList cs = Ascii.dropWord? ['p', 'x'] cs := rfl
  have hem : Ascii.dropWord? LengthUnit.em.text.toList cs = Ascii.dropWord? ['e', 'm'] cs := rfl
  rw [unitAt, h.spells (unitText_ascii .px), h.spells (unitText_ascii .em), LengthUnit.read?,
    ← hpx, ← hem]
  cases hfirst : Ascii.dropWord? LengthUnit.px.text.toList cs with
  | some rest =>
    refine ⟨rfl, fun unit rest' heq => ?_⟩
    obtain ⟨rfl, rfl⟩ := Prod.mk.inj (Option.some.inj heq)
    exact h.dropWord (unitText_ascii .px) hfirst
  | none =>
    cases hsecond : Ascii.dropWord? LengthUnit.em.text.toList cs with
    | some rest =>
      refine ⟨rfl, fun unit rest' heq => ?_⟩
      obtain ⟨rfl, rfl⟩ := Prod.mk.inj (Option.some.inj heq)
      exact h.dropWord (unitText_ascii .em) hsecond
    | none => exact ⟨rfl, fun unit rest heq => absurd heq (by simp)⟩

theorem standsAt_eq (h : IsLeft bytes i cs) (hd : d.toNat < 128) :
    standsAt bytes i d = (cs.head? == some d) := h.head?_beq hd

/-- The bytes of a number are those of a text. -/
theorem decode_number (h : IsLeft bytes i cs) :
    (slice bytes i (skipWhile isNumeral bytes i) >>= decode) = .ok (cs.takeWhile isNumeral) := by
  rw [h.skipWhile_eq isAsciiClass_isNumeral]
  obtain ⟨pre, rfl, rfl⟩ := h
  have hsplit : utf8 cs = utf8 (cs.takeWhile isNumeral) ++ utf8 (cs.dropWhile isNumeral) := by
    rw [← utf8_append, List.takeWhile_append_dropWhile]
  rw [hsplit, slice_append _ _ _ rfl (by simp)]
  exact decode_utf8 _

/-- A length is read behind a colon and white space. -/
theorem lengthAt_eq (h : IsLeft bytes i cs) :
    lengthAt bytes i = .ok (do
      let value ← Decimal.unsigned? (beforeSecondPoint (cs.takeWhile isNumeral))
      let (unit, rest) ← LengthUnit.read? (cs.dropWhile isNumeral)
      match Ascii.skipSpace rest with
      | ')' :: _ => some ⟨value, unit⟩
      | _ => none) := by
  obtain ⟨hunit, hrest⟩ := unitAt_eq (h.skipWhile isAsciiClass_isNumeral)
  rw [lengthAt]
  dsimp only
  rw [← bind_assoc, decode_number h, bind_ok, leadingFloat_eq, bind_ok, hunit]
  cases Decimal.unsigned? (beforeSecondPoint (cs.takeWhile isNumeral)) with
  | none => rfl
  | some value =>
    cases hread : LengthUnit.read? (cs.dropWhile isNumeral) with
    | none => rfl
    | some found =>
      obtain ⟨unit, rest⟩ := found
      have hclosing := standsAt_eq (hrest unit rest hread).skipSpace (d := ')') (by decide)
      dsimp only [Option.map_some]
      rw [hclosing]
      change _ = Except.ok (match Ascii.skipSpace rest with
        | ')' :: _ => some (WidthBound.mk value unit)
        | _ => none)
      cases Ascii.skipSpace rest with
      | nil => rfl
      | cons c cs =>
        by_cases hc : c = ')'
        · subst hc
          rfl
        · rw [if_neg (by simpa using hc)]
          split
          · next heq => exact absurd (List.cons.inj heq).1 hc
          · rfl

/-- A colon is spelled in one way. -/
theorem dropSpaced?_colon_skipSpace (cs : List Char) :
    dropSpaced? [':'] (Ascii.skipSpace cs) =
      match Ascii.skipSpace cs with
      | ':' :: rest => some (Ascii.skipSpace rest)
      | _ => none := by
  have hnone : ∀ c ∈ ([] : List Char), Ascii.isSpace c = true := nofun
  have hagain : Ascii.skipSpace (Ascii.skipSpace cs) = Ascii.skipSpace cs :=
    dropWhile_run hnone (stopsAt_dropWhile _ _)
  rw [dropSpaced?, hagain]
  cases Ascii.skipSpace cs with
  | nil => rfl
  | cons c rest =>
    by_cases hc : c = ':'
    · subst hc
      rfl
    · have hlower : (':'.toLower == c.toLower) = false :=
        beq_false_of_ne fun h => hc (Ascii.eq_of_toLower_eq h.symm (by decide))
      rw [Ascii.dropWord?, hlower, if_neg Bool.false_ne_true]
      split
      · next heq => exact absurd (List.cons.inj heq).1 hc
      · rfl

/-- A bound is read behind a parenthesis. -/
theorem widthBoundAt_eq (hfeature : ∀ w ∈ feature, w.toNat < 128) (h : IsLeft bytes i cs) :
    widthBoundAt bytes i feature = .ok (WidthBound.read? feature cs) := by
  rw [widthBoundAt, WidthBound.read?, dropSpaced?, h.skipSpace.spells hfeature]
  dsimp only
  cases hname : Ascii.dropWord? feature (Ascii.skipSpace cs) with
  | none => rfl
  | some rest =>
    have hcolon := (h.skipSpace.dropWord hfeature hname).skipSpace
    rw [Option.isSome_some, if_pos rfl, standsAt_eq hcolon (by decide), Option.map_some,
      Option.bind_eq_bind, Option.bind_some, dropSpaced?_colon_skipSpace]
    cases hrest : Ascii.skipSpace rest with
    | nil => rfl
    | cons c number =>
      rw [hrest] at hcolon
      by_cases hc : c = ':'
      · subst hc
        exact lengthAt_eq (hcolon.tail (by decide)).skipSpace
      · rw [if_neg (by simpa using hc)]
        split
        · next heq => exact absurd (List.cons.inj heq).1 hc
        · rfl

/-! ## Entries -/

/-- No bound is looked for behind a byte that stands for no ASCII character. -/
theorem findBoundFrom_high {high : List UInt8} (hhigh : ∀ b ∈ high, IsHigh b) (i : Nat)
    (rest : List UInt8) :
    findBoundFrom bytes feature i (high ++ rest) =
      findBoundFrom bytes feature (i + high.length) rest := by
  induction high generalizing i with
  | nil => rfl
  | cons b high ih =>
    obtain ⟨hb, hhigh⟩ := List.forall_mem_cons.mp hhigh
    rw [List.cons_append, findBoundFrom, if_neg (by simpa using asChar_ne hb (by decide)), ih hhigh,
      Nat.add_right_comm]
    rfl

theorem findBoundFrom_eq (hfeature : ∀ w ∈ feature, w.toNat < 128) (h : IsLeft bytes i cs) :
    findBoundFrom bytes feature i (utf8 cs) = .ok (MediaQuery.findBound feature cs) := by
  induction cs generalizing i with
  | nil => rfl
  | cons c cs ih =>
    have hnext := h.next
    rw [MediaQuery.findBound, utf8_cons]
    rcases encoding c with ⟨-, b, hb, hc⟩ | ⟨hwide, hhigh⟩
    · have hsize : c.utf8Size = 1 := utf8Size_eq_one hb
      rw [hsize] at hnext
      rw [hb, List.singleton_append, findBoundFrom, hc, widthBoundAt_eq hfeature hnext, bind_ok,
        ih hnext]
      split
      · cases WidthBound.read? feature cs <;> rfl
      · rfl
    · rw [findBoundFrom_high hhigh, String.length_utf8EncodeChar, ih hnext,
        beq_eq_false_of_wide hwide (by decide)]
      rfl

theorem findBound_eq (entry : List Char) (hfeature : ∀ w ∈ feature, w.toNat < 128) :
    findBound entry feature = .ok (MediaQuery.findBound feature entry) :=
  findBoundFrom_eq hfeature (.start entry)

theorem read_eq (entry : List Char) : read entry = .ok (Condition.read entry) := by
  have hmin : ∀ w ∈ "min-width".toList, w.toNat < 128 := forall_mem_of_all (by decide +kernel)
  have hmax : ∀ w ∈ "max-width".toList, w.toNat < 128 := forall_mem_of_all (by decide +kernel)
  rw [read, findBound_eq entry hmin, bind_ok, findBound_eq entry hmax, bind_ok]
  rfl

/-! ## Lists -/

theorem foldr_consFirst (part first : List Char) (more : List (List Char)) :
    part.foldr Split.consFirst (first :: more) = (part ++ first) :: more := by
  induction part with
  | nil => rfl
  | cons c part ih => rw [List.foldr_cons, ih]; rfl

/-- Bytes that stand for no ASCII character part nothing. -/
theorem splitFrom_high {separator : Char} (hseparator : separator.toNat < 128) {high : List UInt8}
    (hhigh : ∀ b ∈ high, IsHigh b) (text : List Char) (rest : List UInt8) (i start depth : Nat) :
    splitFrom text separator (high ++ rest) i start depth =
      splitFrom text separator rest (i + high.length) start depth := by
  induction high generalizing i with
  | nil => rfl
  | cons b high ih =>
    obtain ⟨hb, hhigh⟩ := List.forall_mem_cons.mp hhigh
    rw [List.cons_append, splitFrom, if_neg (by simpa using asChar_ne hb (by decide)),
      if_neg (by simpa using asChar_ne hb (by decide)),
      if_neg (by simp [asChar_ne hb hseparator]), ih hhigh, Nat.add_right_comm]
    rfl

/-- The parts of a text from the one at hand on, of which `part` has been gone through. -/
theorem splitFrom_utf8 {separator : Char} (hseparator : separator.toNat < 128)
    (front part cs : List Char) (depth : Nat) :
    splitFrom (front ++ (part ++ cs)) separator (utf8 cs) (Size.utf8 (front ++ part))
        (Size.utf8 front) depth =
      .ok (part.foldr Split.consFirst (Condition.splitFrom separator depth cs)) := by
  induction cs generalizing front part depth with
  | nil =>
    rw [utf8_nil, splitFrom, textFrom_append, Condition.splitFrom, foldr_consFirst]
    rfl
  | cons c cs ih =>
    -- a character that belongs to the part at hand
    have hkeep : ∀ depth, splitFrom (front ++ (part ++ c :: cs)) separator (utf8 cs)
        (Size.utf8 (front ++ part) + c.utf8Size) (Size.utf8 front) depth =
          .ok (part.foldr Split.consFirst
            (Split.consFirst c (Condition.splitFrom separator depth cs))) := by
      intro depth
      have hrest := ih front (part ++ [c]) depth
      rw [List.foldr_append] at hrest
      simpa [Nat.add_assoc] using hrest
    rw [Condition.splitFrom, utf8_cons]
    rcases encoding c with ⟨-, b, hb, hc⟩ | ⟨hwide, hhigh⟩
    · have hsize : c.utf8Size = 1 := utf8Size_eq_one hb
      rw [hsize] at hkeep
      rw [hb, List.singleton_append, splitFrom, hc]
      split
      · exact hkeep _
      split
      · exact hkeep _
      split
      · next hpart =>
        simp only [Bool.and_eq_true, beq_iff_eq] at hpart
        obtain ⟨-, rfl⟩ := hpart
        have htext : front ++ (part ++ c :: cs) = (front ++ part ++ [c]) ++ ([] ++ cs) := by simp
        have hbehind : Size.utf8 (front ++ part) + 1 = Size.utf8 (front ++ part ++ [c]) := by
          simp [hsize, Nat.add_assoc]
        have hrest := ih (front ++ part ++ [c]) [] 0
        rw [List.append_nil, ← htext] at hrest
        rw [cut_append front part _ rfl rfl, bind_ok, hbehind, hrest, foldr_consFirst,
          List.append_nil]
        rfl
      · exact hkeep _
    · rw [splitFrom_high hseparator hhigh, String.length_utf8EncodeChar, hkeep,
        beq_eq_false_of_wide hwide (by decide), beq_eq_false_of_wide hwide (by decide),
        beq_eq_false_of_wide hwide hseparator]
      rfl

/-- A text is parted at the bytes of its separators. -/
theorem split_eq {separator : Char} (hseparator : separator.toNat < 128) (text : List Char) :
    split separator text = .ok (Condition.split separator text) :=
  splitFrom_utf8 hseparator [] [] text 0

/-- A media query list gives the conditions that it gives when its characters are read. -/
theorem readList_eq (text : List Char) : readList text = .ok (Condition.readList text) := by
  rw [readList, split_eq (by decide), bind_ok, Condition.readList]
  cases (Condition.split ',' text).filter fun entry => !Blank.allBlank entry with
  | nil => rfl
  | cons entry entries =>
    have hread : read = fun entry => pure (Condition.read entry) := funext read_eq
    rw [hread]
    exact List.mapM_pure

end MediaQuery.Bytes
