import MediaQuery.Bytes.Basic
import MediaQuery.Proofs.Text.Spelling
import MediaQuery.Text.Size
import Mathlib.Logic.Basic

/-!
# Bytes and characters

What a reader of bytes sees at an index is told by the text that is left there (`IsLeft`). A
character of ASCII is one byte with its number; the bytes of any other character have numbers that
no ASCII character has, and a reader that looks for ASCII characters alone passes over all of them
(`IsLeft.passes`). So wherever such a reader stops, a text is left again.
-/

namespace MediaQuery.Bytes

variable {α : Type} {c d : Char} {cs rest word : List Char} {b : UInt8}
  {bytes pre post : List UInt8} {p : Char → Bool} {i : Nat}

theorem bind_ok {β : Type} (a : α) (f : α → Checked β) : (Except.ok a : Checked α) >>= f = f a :=
  rfl

/-! ## Bytes of characters -/

@[simp] theorem utf8_nil : utf8 [] = [] := rfl

@[simp] theorem utf8_cons (c : Char) (cs : List Char) :
    utf8 (c :: cs) = String.utf8EncodeChar c ++ utf8 cs := rfl

@[simp] theorem utf8_append (a b : List Char) : utf8 (a ++ b) = utf8 a ++ utf8 b :=
  List.flatMap_append

@[simp] theorem length_utf8 (cs : List Char) : (utf8 cs).length = Size.utf8 cs := by
  induction cs with
  | nil => rfl
  | cons c cs ih => simp [ih]

/-- A byte that stands for no ASCII character. -/
def IsHigh (b : UInt8) : Prop := 128 ≤ (asChar b).toNat

theorem toNat_asChar (b : UInt8) : (asChar b).toNat = b.toNat := UInt8.toNat_toUInt32 b

theorem isHigh_ofNat {n : Nat} (h : 128 ≤ n) (hn : n < 256) : IsHigh (UInt8.ofNat n) := by
  rw [IsHigh, toNat_asChar, UInt8.toNat_ofNat']
  omega

/-- An ASCII character is one byte, and no other character has a byte that stands for one. -/
theorem encoding (c : Char) :
    c.toNat < 128 ∧ (∃ b, String.utf8EncodeChar c = [b] ∧ asChar b = c) ∨
      128 ≤ c.toNat ∧ ∀ b ∈ String.utf8EncodeChar c, IsHigh b := by
  have hval : c.val.toNat = c.toNat := rfl
  unfold String.utf8EncodeChar
  simp only [hval]
  split
  · next h =>
    refine Or.inl ⟨by omega, UInt8.ofNat c.toNat, rfl, ?_⟩
    apply Char.toNat_inj.mp
    rw [toNat_asChar, UInt8.toNat_ofNat']
    omega
  · next h =>
    refine Or.inr ⟨by omega, ?_⟩
    split
    · simp only [List.forall_mem_cons, List.not_mem_nil, false_implies, implies_true, and_true]
      exact ⟨isHigh_ofNat (by omega) (by omega), isHigh_ofNat (by omega) (by omega)⟩
    split
    · simp only [List.forall_mem_cons, List.not_mem_nil, false_implies, implies_true, and_true]
      exact ⟨isHigh_ofNat (by omega) (by omega), isHigh_ofNat (by omega) (by omega),
        isHigh_ofNat (by omega) (by omega)⟩
    · simp only [List.forall_mem_cons, List.not_mem_nil, false_implies, implies_true, and_true]
      exact ⟨isHigh_ofNat (by omega) (by omega), isHigh_ofNat (by omega) (by omega),
        isHigh_ofNat (by omega) (by omega), isHigh_ofNat (by omega) (by omega)⟩

theorem asChar_ne (hb : IsHigh b) (hd : d.toNat < 128) : asChar b ≠ d := by
  rintro rfl
  exact absurd hb (Nat.not_le_of_lt hd)

theorem beq_eq_false_of_wide (hc : 128 ≤ c.toNat) (hd : d.toNat < 128) : (c == d) = false := by
  refine beq_false_of_ne ?_
  rintro rfl
  omega

theorem utf8Size_eq_one (h : String.utf8EncodeChar c = [b]) : c.utf8Size = 1 := by
  rw [← String.length_utf8EncodeChar, h]
  rfl

/-- A reader that moves on by one at every byte that stands for no ASCII character passes all of
them that stand in a row. -/
theorem passes_high {F : Nat → α} (hstep : ∀ i b, bytes[i]? = some b → IsHigh b → F i = F (i + 1))
    {high : List UInt8} (hbytes : bytes = pre ++ (high ++ post)) (hhigh : ∀ b ∈ high, IsHigh b) :
    F pre.length = F (pre.length + high.length) := by
  induction high generalizing pre with
  | nil => rfl
  | cons b high ih =>
    obtain ⟨hb, hrest⟩ := List.forall_mem_cons.mp hhigh
    have hat : bytes[pre.length]? = some b := by simp [hbytes]
    have hbytes' : bytes = (pre ++ [b]) ++ (high ++ post) := by simp [hbytes]
    have hlater := ih hbytes' hrest
    rw [List.length_append, List.length_singleton, Nat.add_assoc, Nat.add_comm 1] at hlater
    exact (hstep _ b hat hb).trans hlater

/-! ## What is left at an index -/

/-- A text is what is left of some bytes at an index. -/
def IsLeft (bytes : List UInt8) (i : Nat) (cs : List Char) : Prop :=
  ∃ pre, bytes = pre ++ utf8 cs ∧ i = pre.length

namespace IsLeft

theorem start (cs : List Char) : IsLeft (utf8 cs) 0 cs := ⟨[], rfl, rfl⟩

/-- Behind the first part of what is left, the rest is left. -/
theorem behind {a : List Char} (h : IsLeft bytes i (a ++ cs)) :
    IsLeft bytes (i + Size.utf8 a) cs := by
  obtain ⟨pre, rfl, rfl⟩ := h
  exact ⟨pre ++ utf8 a, by simp, by simp⟩

/-- Behind the first part of a text, the rest of it is left. -/
theorem append (a cs : List Char) : IsLeft (utf8 (a ++ cs)) (Size.utf8 a) cs :=
  ⟨utf8 a, utf8_append a cs, (length_utf8 a).symm⟩

theorem next (h : IsLeft bytes i (c :: cs)) : IsLeft bytes (i + c.utf8Size) cs :=
  behind (a := [c]) h

/-- The bytes in front of an index and those of the text left there are all of them. -/
theorem add_size (h : IsLeft bytes i cs) : i + Size.utf8 cs = bytes.length := by
  obtain ⟨pre, rfl, rfl⟩ := h
  rw [List.length_append, length_utf8]

/-- A character of ASCII stands at an index by itself; of any other character the first of the bytes
that stand for none does. -/
theorem exists_byte (h : IsLeft bytes i (c :: cs)) : ∃ b, bytes[i]? = some b ∧
    (asChar b = c ∧ c.utf8Size = 1 ∧ c.toNat < 128 ∨ IsHigh b ∧ 128 ≤ c.toNat) := by
  obtain ⟨pre, rfl, rfl⟩ := h
  rcases encoding c with ⟨hascii, b, hb, hc⟩ | ⟨hwide, hhigh⟩
  · exact ⟨b, by simp [hb], Or.inl ⟨hc, utf8Size_eq_one hb, hascii⟩⟩
  · obtain ⟨b, bs, hb⟩ := List.exists_cons_of_ne_nil (String.utf8EncodeChar_ne_nil (c := c))
    refine ⟨b, by simp [hb], Or.inr ⟨hhigh b ?_, hwide⟩⟩
    rw [hb]
    exact List.mem_cons_self

/-- A reader that moves on by one at every byte that stands for no ASCII character passes a
character outside ASCII. -/
theorem passes {F : Nat → α} (h : IsLeft bytes i (c :: cs)) (hwide : 128 ≤ c.toNat)
    (hstep : ∀ i b, bytes[i]? = some b → IsHigh b → F i = F (i + 1)) :
    F i = F (i + c.utf8Size) := by
  obtain ⟨pre, hbytes, rfl⟩ := h
  rcases encoding c with ⟨hascii, -⟩ | ⟨-, hhigh⟩
  · omega
  · rw [← String.length_utf8EncodeChar]
    exact passes_high hstep hbytes hhigh

theorem tail (h : IsLeft bytes i (d :: cs)) (hd : d.toNat < 128) : IsLeft bytes (i + 1) cs := by
  obtain ⟨-, -, ⟨-, hsize, -⟩ | ⟨-, hwide⟩⟩ := h.exists_byte
  · rw [← hsize]
    exact h.next
  · omega

theorem getElem?_of_nil (h : IsLeft bytes i []) : bytes[i]? = none := by
  obtain ⟨pre, rfl, rfl⟩ := h
  simp

end IsLeft

/-! ## Classes of characters -/

/-- A class of characters that has all of those outside ASCII or none. -/
def IsAsciiClass (p : Char → Bool) : Prop :=
  ∀ c d : Char, 128 ≤ c.toNat → 128 ≤ d.toNat → p c = p d

theorem isAsciiClass_of_false (h : ∀ c : Char, 128 ≤ c.toNat → p c = false) : IsAsciiClass p :=
  fun c d hc hd => (h c hc).trans (h d hd).symm

theorem IsAsciiClass.not (h : IsAsciiClass p) : IsAsciiClass fun c => !p c :=
  fun c d hc hd => congrArg (! ·) (h c d hc hd)

theorem IsAsciiClass.or {q : Char → Bool} (h : IsAsciiClass p) (h' : IsAsciiClass q) :
    IsAsciiClass fun c => p c || q c :=
  fun c d hc hd => congr_arg₂ (· || ·) (h c d hc hd) (h' c d hc hd)

theorem isAsciiClass_beq (hd : d.toNat < 128) : IsAsciiClass (· == d) :=
  isAsciiClass_of_false fun _ hc => beq_eq_false_of_wide hc hd

/-- What stands at an index is told by the text that is left there. -/
theorem IsLeft.head?_class (h : IsLeft bytes i cs) (hp : IsAsciiClass p) :
    bytes[i]?.map (fun b => p (asChar b)) = cs.head?.map p := by
  cases cs with
  | nil => rw [h.getElem?_of_nil]; rfl
  | cons c cs =>
    obtain ⟨b, hat, ⟨rfl, -⟩ | ⟨hb, hwide⟩⟩ := h.exists_byte
    · rw [hat]
      rfl
    · rw [hat]
      exact congrArg some (hp _ _ hb hwide)

/-- A character of ASCII stands at an index if the text that is left there begins with it. -/
theorem IsLeft.head?_beq (h : IsLeft bytes i cs) (hd : d.toNat < 128) :
    (bytes[i]?.map asChar == some d) = (cs.head? == some d) := by
  have hclass := h.head?_class (isAsciiClass_beq hd)
  cases hbyte : bytes[i]? <;> cases hchar : cs.head? <;> simp_all

/-! ## Cutting texts -/

theorem textFrom_append (a cs : List Char) : textFrom (a ++ cs) (Size.utf8 a) = .ok cs := by
  induction a with
  | nil => exact textFrom.eq_1 cs
  | cons c a ih =>
    obtain ⟨n, hn⟩ : ∃ n, c.utf8Size + Size.utf8 a = n + 1 :=
      Nat.exists_eq_succ_of_ne_zero (by have := c.utf8Size_pos; omega)
    rw [List.cons_append, Size.utf8_cons, hn, textFrom, if_pos (by omega), ← hn,
      Nat.add_sub_cancel_left, ih]

theorem textTo_append (a cs : List Char) : textTo (a ++ cs) (Size.utf8 a) = .ok a := by
  induction a with
  | nil => exact textTo.eq_1 _
  | cons c a ih =>
    obtain ⟨n, hn⟩ : ∃ n, c.utf8Size + Size.utf8 a = n + 1 :=
      Nat.exists_eq_succ_of_ne_zero (by have := c.utf8Size_pos; omega)
    rw [List.cons_append, Size.utf8_cons, hn, textTo, if_pos (by omega), ← hn,
      Nat.add_sub_cancel_left, ih]
    rfl

/-- A piece is cut out between the bytes in front of it and those up to its end. -/
theorem cut_append (a piece cs : List Char) {start stop : Nat} (hstart : start = Size.utf8 a)
    (hstop : stop = Size.utf8 (a ++ piece)) : cut (a ++ (piece ++ cs)) start stop = .ok piece := by
  subst hstart hstop
  rw [cut, textFrom_append, Size.utf8_append]
  change (if _ then _ else _) = _
  rw [if_pos (Nat.le_add_right _ _), Nat.add_sub_cancel_left, textTo_append]

theorem slice_append (pre piece post : List UInt8) {start stop : Nat} (hstart : start = pre.length)
    (hstop : stop = pre.length + piece.length) :
    slice (pre ++ (piece ++ post)) start stop = .ok piece := by
  subst hstart hstop
  rw [slice, if_pos ⟨by omega, by simp⟩]
  simp

/-- From an index to the end of some bytes there are those of the text that is left. -/
theorem IsLeft.slice (h : IsLeft bytes i cs) :
    Bytes.slice bytes i bytes.length = .ok (utf8 cs) := by
  obtain ⟨pre, hbytes, rfl⟩ := h
  have hsplit : bytes = pre ++ (utf8 cs ++ []) := by rw [List.append_nil, hbytes]
  have hlength : bytes.length = pre.length + (utf8 cs).length := by
    rw [hbytes, List.length_append]
  rw [hlength, hsplit]
  exact slice_append pre (utf8 cs) [] rfl rfl

theorem byteAt_of_getElem? (h : bytes[i]? = some b) : byteAt bytes i = .ok b := by
  rw [byteAt, h]

/-- The bytes of a text are read as this text. -/
theorem decode_utf8 (cs : List Char) : decode (utf8 cs) = .ok cs := by
  have hvalid : (utf8 cs).toByteArray.IsValidUTF8 :=
    ByteArray.isValidUTF8_utf8Encode (l := cs)
  have htext : String.fromUTF8 (utf8 cs).toByteArray hvalid = String.ofList cs := rfl
  rw [decode, String.fromUTF8?, dif_pos hvalid, htext]
  exact congrArg Except.ok String.toList_ofList

/-! ## Runs of bytes -/

theorem skipWhile_of_getElem? (p : Char → Bool) (h : bytes[i]? = some b) :
    skipWhile p bytes i = if p (asChar b) then skipWhile p bytes (i + 1) else i := by
  obtain ⟨hi, rfl⟩ := List.getElem?_eq_some_iff.mp h
  rw [skipWhile, dif_pos hi]

/-- A run of a class is skipped up to where it ends in the text. -/
theorem IsLeft.skipWhile_eq (h : IsLeft bytes i cs) (hp : IsAsciiClass p) :
    skipWhile p bytes i = i + Size.utf8 (cs.takeWhile p) := by
  induction cs generalizing i with
  | nil =>
    have hend := h.add_size
    rw [Size.utf8_nil] at hend
    rw [skipWhile, dif_neg (by omega)]
    rfl
  | cons c cs ih =>
    obtain ⟨b, hat, hbyte⟩ := h.exists_byte
    have hclass : p (asChar b) = p c := by
      rcases hbyte with ⟨rfl, -⟩ | ⟨hb, hwide⟩
      · rfl
      · exact hp _ _ hb hwide
    cases hc : p c with
    | false =>
      rw [skipWhile_of_getElem? p hat, hclass, hc, List.takeWhile_cons, hc]
      rfl
    | true =>
      have hpast : skipWhile p bytes i = skipWhile p bytes (i + c.utf8Size) := by
        rcases hbyte with ⟨-, hsize, -⟩ | ⟨-, hwide⟩
        · rw [skipWhile_of_getElem? p hat, hclass, hc, if_pos rfl, hsize]
        · refine h.passes hwide fun j d hd hhigh => ?_
          rw [skipWhile_of_getElem? p hd, hp _ c hhigh hwide, hc, if_pos rfl]
      rw [hpast, ih h.next, List.takeWhile_cons, hc, if_pos rfl, Size.utf8_cons, ← Nat.add_assoc]

/-- Behind a run of a class, the text behind the run is left. -/
theorem IsLeft.skipWhile (h : IsLeft bytes i cs) (hp : IsAsciiClass p) :
    IsLeft bytes (Bytes.skipWhile p bytes i) (cs.dropWhile p) := by
  rw [h.skipWhile_eq hp]
  refine behind (a := cs.takeWhile p) ?_
  rwa [List.takeWhile_append_dropWhile]

theorem isAsciiClass_isSpace : IsAsciiClass Ascii.isSpace :=
  isAsciiClass_of_false fun c hc => Bool.eq_false_iff.mpr fun hspace => by
    simp only [Ascii.isSpace, Bool.or_eq_true, beq_iff_eq] at hspace
    rcases hspace with (((rfl | rfl) | rfl) | rfl) | rfl <;> exact absurd hc (by decide)

theorem IsLeft.skipSpace (h : IsLeft bytes i cs) :
    IsLeft bytes (Bytes.skipWhile Ascii.isSpace bytes i) (Ascii.skipSpace cs) :=
  h.skipWhile isAsciiClass_isSpace

/-! ## Words -/

theorem toLower_of_wide (h : 128 ≤ c.toNat) : c.toLower = c := by
  refine Ascii.toLower_of_not_isUpper (Bool.eq_false_iff.mpr fun hupper => ?_)
  have hbounds := (Ascii.isUpper_iff c).mp hupper
  omega

theorem toLower_lt (h : c.toNat < 128) : c.toLower.toNat < 128 := by
  cases hupper : c.isUpper with
  | false => rwa [Ascii.toLower_of_not_isUpper hupper]
  | true =>
    have hbounds := (Ascii.isUpper_iff c).mp hupper
    rw [Ascii.toNat_toLower hupper]
    omega

/-- No character outside ASCII is a spelling of one of ASCII. -/
theorem toLower_ne_of_wide (hc : 128 ≤ c.toNat) (hd : d.toNat < 128) :
    (c.toLower == d.toLower) = false := by
  refine beq_false_of_ne fun h => ?_
  rw [toLower_of_wide hc] at h
  have hlt := toLower_lt hd
  rw [← h] at hlt
  omega

theorem sameLetters_cons (a : List Char) :
    Ascii.sameLetters (c :: a) (d :: word) =
      (c.toLower == d.toLower && Ascii.sameLetters a word) := rfl

theorem size_of_sameLetters {spelled : List Char} (hword : ∀ w ∈ word, w.toNat < 128)
    (h : Ascii.sameLetters spelled word = true) : Size.utf8 spelled = word.length := by
  induction spelled generalizing word with
  | nil =>
    cases word with
    | nil => rfl
    | cons w word => exact absurd h (by simp [Ascii.sameLetters, Ascii.lower])
  | cons c spelled ih =>
    cases word with
    | nil => exact absurd h (by simp [Ascii.sameLetters, Ascii.lower])
    | cons w word =>
      obtain ⟨hw, hword⟩ := List.forall_mem_cons.mp hword
      rw [sameLetters_cons, Bool.and_eq_true] at h
      have hsize : c.utf8Size = 1 := by
        rcases encoding c with ⟨-, b, hb, -⟩ | ⟨hwide, -⟩
        · simp [← String.length_utf8EncodeChar, hb]
        · rw [toLower_ne_of_wide hwide hw] at h
          exact absurd h.1 Bool.false_ne_true
      rw [Size.utf8_cons, ih hword h.2, hsize, List.length_cons, Nat.add_comm]

theorem spells_eq (pre post : List UInt8) (word : List Char) :
    spells (pre ++ post) pre.length word =
      Ascii.sameLetters ((post.take word.length).map asChar) word := by
  rw [spells, slice]
  split
  · next spelled h =>
    split at h
    · rw [← Except.ok.inj h]
      simp
    · exact absurd h (by simp)
  · next h =>
    split at h
    · exact absurd h (by simp)
    · next hshort =>
      refine (beq_false_of_ne fun heq => hshort ?_).symm
      have hlength := congrArg List.length heq
      simp only [Ascii.lower, List.length_map, List.length_take] at hlength
      rw [List.length_append]
      omega

/-- The first bytes of a text spell a word if the text begins with a spelling of it. -/
theorem spells_append (hword : ∀ w ∈ word, w.toNat < 128) (pre : List UInt8) (cs : List Char) :
    spells (pre ++ utf8 cs) pre.length word = (Ascii.dropWord? word cs).isSome := by
  rw [spells_eq]
  induction word generalizing cs with
  | nil => rfl
  | cons w word ih =>
    obtain ⟨hw, hword⟩ := List.forall_mem_cons.mp hword
    cases cs with
    | nil => rfl
    | cons c cs =>
      rw [Ascii.dropWord?, utf8_cons, List.length_cons]
      rcases encoding c with ⟨-, b, hb, hc⟩ | ⟨hwide, hhigh⟩
      · rw [hb, List.singleton_append, List.take_succ_cons, List.map_cons, sameLetters_cons, hc,
          ih hword, BEq.comm]
        cases w.toLower == c.toLower <;> rfl
      · obtain ⟨b, bs, hb⟩ := List.exists_cons_of_ne_nil (String.utf8EncodeChar_ne_nil (c := c))
        have hfirst : IsHigh b := hhigh b (by rw [hb]; exact List.mem_cons_self)
        rw [hb, List.cons_append, List.take_succ_cons, List.map_cons, sameLetters_cons,
          toLower_ne_of_wide hfirst hw, BEq.comm, toLower_ne_of_wide hwide hw]
        rfl

/-- Behind a word that a text begins with, a reader of bytes is where one of characters is. -/
theorem exists_of_dropWord? (hword : ∀ w ∈ word, w.toNat < 128)
    (h : Ascii.dropWord? word cs = some rest) :
    ∃ spelled, cs = spelled ++ rest ∧ Size.utf8 spelled = word.length ∧
      Ascii.sameLetters spelled word = true := by
  obtain ⟨spelled, rfl, hspelled⟩ := Ascii.dropWord?_eq_some_iff.mp h
  exact ⟨spelled, rfl, size_of_sameLetters hword hspelled, hspelled⟩

/-- Whether a word stands at an index is told by the text that is left there. -/
theorem IsLeft.spells (h : IsLeft bytes i cs) (hword : ∀ w ∈ word, w.toNat < 128) :
    Bytes.spells bytes i word = (Ascii.dropWord? word cs).isSome := by
  obtain ⟨pre, rfl, rfl⟩ := h
  exact spells_append hword pre cs

/-- Behind a word that stands there, the text behind the word is left. -/
theorem IsLeft.dropWord (h : IsLeft bytes i cs) (hword : ∀ w ∈ word, w.toNat < 128)
    (hrest : Ascii.dropWord? word cs = some rest) : IsLeft bytes (i + word.length) rest := by
  obtain ⟨spelled, rfl, hsize, -⟩ := exists_of_dropWord? hword hrest
  rw [← hsize]
  exact h.behind

end MediaQuery.Bytes
