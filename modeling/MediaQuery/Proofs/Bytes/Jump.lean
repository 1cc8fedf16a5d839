import MediaQuery.Bytes.Sheet
import MediaQuery.Proofs.Bytes.Encoding
import MediaQuery.Proofs.Css.TopLevel

/-!
# Jumps over comments and strings

A walk over the bytes of a stylesheet jumps over comments and strings; a reader of its characters
goes through them and takes no notice. Both are at the same place behind them: `behindOpaque?` tells
what is left there, for the one (`skipOpaque_utf8`) and for the other (`scanFrom_behindOpaque`). A
jump of two bytes may lead into the middle of a character, whose other bytes are then passed over
(`skipString_escape`).
-/

namespace MediaQuery.Bytes

open Css (Shield Phase RawBlock Fault)

variable {α : Type} {c d q : Char} {cs rest consumed : List Char} {b : UInt8}
  {bytes pre post : List UInt8} {i : Nat}

/-! ## Behind comments and strings -/

/-- What is behind a comment, from a place in it on; nothing if it is left open. -/
def behindComment : List Char → List Char
  | [] => []
  | c :: cs => if c == '*' && cs.head? == some '/' then cs.tail else behindComment cs

/-- What is behind a string, from a place in it on; nothing if it is left open. -/
def behindString (quote : Char) : List Char → List Char
  | [] | [_] => []
  | c :: d :: cs =>
    if c == '\\' then behindString quote cs
    else if c == quote then d :: cs
    else behindString quote (d :: cs)

/-- What is behind the comment or the string that a text begins with. -/
def behindOpaque? : List Char → Option (List Char)
  | [] => none
  | c :: cs =>
    if c == '/' && cs.head? == some '*' then some (behindComment cs.tail)
    else if Shield.isQuote c then some (behindString c cs)
    else none

/-- A reader of characters in a state takes no notice of the first part of a text, and is outside of
comments and strings then, unless the text is over. -/
def Hidden (s : Shield) (consumed rest : List Char) : Prop :=
  ∀ (position : Nat) (phase : Phase), Css.scanFrom position phase s (consumed ++ rest) =
    Css.scanFrom (position + Size.utf8 consumed) (phase.keepAll consumed) .plain rest

theorem scanFrom_shielded {s : Shield} (hs : s.isBare = false) (position : Nat) (phase : Phase)
    (c : Char) (cs : List Char) :
    Css.scanFrom position phase s (c :: cs) =
      Css.scanFrom (position + c.utf8Size) (phase.keep c) (s.step c) cs := by
  rw [Css.scanFrom, if_neg (by simp [hs])]

theorem hidden_nil (rest : List Char) : Hidden .plain [] rest := fun _ _ => rfl

/-- At the end of a text it does not matter where a reader stands. -/
theorem hidden_of_nil (s : Shield) : Hidden s [] [] := fun _ _ => rfl

theorem Hidden.cons {s : Shield} (hs : s.isBare = false) (h : Hidden (s.step c) consumed rest) :
    Hidden s (c :: consumed) rest := by
  intro position phase
  rw [List.cons_append, scanFrom_shielded hs, h, Size.utf8_cons, Nat.add_assoc]
  rfl

/-- Behind a star a comment goes on unless a slash follows. -/
theorem Hidden.star (h : Hidden .comment consumed rest)
    (hslash : (consumed ++ rest).head? ≠ some '/') : Hidden .star consumed rest := by
  intro position phase
  rw [← h]
  cases hcs : consumed ++ rest with
  | nil => rfl
  | cons c cs =>
    have hc : c ≠ '/' := fun hc => hslash (by rw [hcs, hc]; rfl)
    have hstep : Shield.star.step c = Shield.comment.step c := by simp [Shield.step, hc]
    rw [scanFrom_shielded rfl, scanFrom_shielded rfl, hstep]

theorem exists_behindComment (cs : List Char) :
    ∃ consumed, cs = consumed ++ behindComment cs ∧
      Hidden .comment consumed (behindComment cs) := by
  induction cs with
  | nil => exact ⟨[], rfl, hidden_of_nil _⟩
  | cons c cs ih =>
    rw [behindComment]
    split
    · next hend =>
      simp only [Bool.and_eq_true, beq_iff_eq] at hend
      obtain ⟨rfl, hslash⟩ := hend
      obtain ⟨cs, rfl⟩ := List.head?_eq_some_iff.mp hslash
      exact ⟨['*', '/'], rfl, .cons rfl (.cons rfl (hidden_nil cs))⟩
    · next hend =>
      obtain ⟨consumed, hcs, hhidden⟩ := ih
      refine ⟨c :: consumed, congrArg (c :: ·) hcs, .cons rfl ?_⟩
      by_cases hstar : c = '*'
      · subst hstar
        have hslash : (consumed ++ behindComment cs).head? ≠ some '/' := by
          rw [← hcs]
          simpa using hend
        exact hhidden.star hslash
      · have hstep : Shield.comment.step c = .comment := by simp [Shield.step, hstar]
        rwa [hstep]

theorem exists_behindString (q : Char) (cs : List Char) :
    ∃ consumed, cs = consumed ++ behindString q cs ∧
      Hidden (.quoted q) consumed (behindString q cs) := by
  fun_induction behindString q cs with
  | case1 => exact ⟨[], rfl, hidden_of_nil _⟩
  | case2 c => exact ⟨[c], rfl, .cons rfl (hidden_of_nil _)⟩
  | case3 c d cs hescape ih =>
    obtain ⟨consumed, hcs, hhidden⟩ := ih
    obtain rfl : c = '\\' := by simpa using hescape
    exact ⟨'\\' :: d :: consumed, congrArg ('\\' :: d :: ·) hcs, .cons rfl (.cons rfl hhidden)⟩
  | case4 c d cs hescape hquote =>
    obtain rfl : c = q := by simpa using hquote
    have hstep : (Shield.quoted c).step c = .plain := by simpa [Shield.step] using hescape
    exact ⟨[c], rfl, .cons rfl (hstep ▸ hidden_nil _)⟩
  | case5 c d cs hescape hquote ih =>
    obtain ⟨consumed, hcs, hhidden⟩ := ih
    have hstep : (Shield.quoted q).step c = .quoted q := by
      simp only [beq_iff_eq] at hescape hquote
      simp [Shield.step, hescape, hquote]
    exact ⟨c :: consumed, congrArg (c :: ·) hcs, .cons rfl (hstep.symm ▸ hhidden)⟩

/-- A reader of characters jumps over the comment or the string that a text begins with. -/
theorem scanFrom_behindOpaque (h : behindOpaque? cs = some rest) :
    ∃ consumed, cs = consumed ++ rest ∧ consumed ≠ [] ∧ Hidden .plain consumed rest := by
  cases cs with
  | nil => exact absurd h (by simp [behindOpaque?])
  | cons c cs =>
    rw [behindOpaque?] at h
    split at h
    · next hopen =>
      simp only [Bool.and_eq_true, beq_iff_eq] at hopen
      obtain ⟨rfl, hstar⟩ := hopen
      obtain ⟨cs, rfl⟩ := List.head?_eq_some_iff.mp hstar
      obtain rfl := Option.some.inj h
      obtain ⟨consumed, hcs, hhidden⟩ := exists_behindComment cs
      refine ⟨'/' :: '*' :: consumed, congrArg ('/' :: '*' :: ·) hcs, List.cons_ne_nil _ _, ?_⟩
      intro position phase
      rw [List.cons_append, List.cons_append,
        Css.scanFrom_bare rfl (Phase.step_of_not_mem_marks (by decide)),
        Css.scanFrom_bare rfl (Phase.step_of_not_mem_marks (by decide))]
      refine (hhidden _ _).trans ?_
      rw [Size.utf8_cons, Size.utf8_cons, ← Nat.add_assoc, ← Nat.add_assoc]
      rfl
    split at h
    · next hquote =>
      obtain rfl := Option.some.inj h
      obtain ⟨consumed, hcs, hhidden⟩ := exists_behindString c cs
      -- a quote has no say in the phase but opens a string
      have hmark : c ∉ Phase.marks := by
        intro hmem
        have hnone : ∀ d ∈ Phase.marks, Shield.isQuote d = false := forall_mem_of_all (by decide)
        rw [hnone c hmem] at hquote
        exact Bool.noConfusion hquote
      have hstep : Shield.plain.step c = .quoted c := Shield.enter_quote hquote
      refine ⟨c :: consumed, congrArg (c :: ·) hcs, List.cons_ne_nil _ _, ?_⟩
      intro position phase
      rw [List.cons_append, Css.scanFrom_bare rfl (Phase.step_of_not_mem_marks hmark), hstep]
      refine (hhidden _ _).trans ?_
      rw [Size.utf8_cons, ← Nat.add_assoc]
      rfl
    · exact absurd h (by simp)

/-- Where no comment and no string begins, a reader of characters is outside behind the next one. -/
theorem scanFrom_enter (h : behindOpaque? (c :: cs) = none) (position : Nat) (phase : Phase) :
    Css.scanFrom position phase (Shield.plain.step c) cs =
      Css.scanFrom position phase .plain cs := by
  rw [behindOpaque?] at h
  split at h
  · exact absurd h (by simp)
  split at h
  · exact absurd h (by simp)
  next hopen hquote =>
    cases cs with
    | nil => rfl
    | cons d cs =>
      refine Css.scanFrom_of_isReady position phase
        (Shield.isReady_enter (by simpa using hquote) ?_)
      rintro rfl
      simpa using hopen

theorem scanFrom_char {phase next : Phase} {position : Nat} (h : behindOpaque? (c :: cs) = none)
    (hstep : phase.step position c (c :: cs) = (next, none)) :
    Css.scanFrom position phase .plain (c :: cs) =
      Css.scanFrom (position + c.utf8Size) next .plain cs := by
  rw [Css.scanFrom_bare rfl hstep, scanFrom_enter h]

/-- A text is gone through comment by comment, string by string and character by character. -/
theorem walk_induction {P : List Char → Prop} (nil : P [])
    (jump : ∀ consumed rest, consumed ≠ [] → behindOpaque? (consumed ++ rest) = some rest →
      Hidden .plain consumed rest → P rest → P (consumed ++ rest))
    (char : ∀ c cs, behindOpaque? (c :: cs) = none → P cs → P (c :: cs)) (cs : List Char) :
    P cs := by
  match hcover : behindOpaque? cs with
  | some rest =>
    obtain ⟨consumed, rfl, hne, hhidden⟩ := scanFrom_behindOpaque hcover
    have hlt : rest.length < (consumed ++ rest).length := by
      have := List.length_pos_iff.mpr hne
      rw [List.length_append]
      omega
    exact jump consumed rest hne hcover hhidden (walk_induction nil jump char rest)
  | none =>
    match cs with
    | [] => exact nil
    | c :: cs => exact char c cs hcover (walk_induction nil jump char cs)
termination_by cs.length

/-! ## Jumps -/

theorem toNat_lt_of_isQuote (h : Shield.isQuote q = true) : q.toNat < 128 := by
  have hq : q = '"' ∨ q = '\'' := by simpa [Shield.isQuote] using h
  rcases hq with rfl | rfl <;> decide

theorem isQuote_of_wide (h : 128 ≤ c.toNat) : Shield.isQuote c = false :=
  Bool.eq_false_iff.mpr fun hquote => absurd (toNat_lt_of_isQuote hquote) (Nat.not_lt_of_le h)

/-- A byte that is no star ends no comment. -/
theorem commentEnd?_cons (hb : asChar b ≠ '*') (bytes : List UInt8) :
    commentEnd? (b :: bytes) = (commentEnd? bytes).map (· + 1) := by
  cases bytes with
  | nil => rfl
  | cons b' bytes => simp [commentEnd?, hb]

theorem commentEnd?_high {high : List UInt8} (hhigh : ∀ b ∈ high, IsHigh b)
    (bytes : List UInt8) :
    commentEnd? (high ++ bytes) = (commentEnd? bytes).map (· + high.length) := by
  induction high with
  | nil => simp
  | cons b high ih =>
    obtain ⟨hb, hhigh⟩ := List.forall_mem_cons.mp hhigh
    rw [List.cons_append, commentEnd?_cons (asChar_ne hb (by decide)), ih hhigh, Option.map_map]
    rfl

/-- A character with which the end of a comment does not begin is passed over. -/
theorem commentEnd?_pass (hend : ¬ (c = '*' ∧ cs.head? = some '/')) :
    commentEnd? (utf8 (c :: cs)) = (commentEnd? (utf8 cs)).map (· + c.utf8Size) := by
  rcases encoding c with ⟨-, b, hb, hc⟩ | ⟨-, hhigh⟩
  · rw [utf8_cons, hb, utf8Size_eq_one hb, List.singleton_append]
    by_cases hstar : c = '*'
    · have hslash : cs.head? ≠ some '/' := fun hslash => hend ⟨hstar, hslash⟩
      cases hrest : utf8 cs with
      | nil => rfl
      | cons b' more =>
        have hb' : asChar b' ≠ '/' := by
          have hbeq := (IsLeft.start cs).head?_beq (by decide : '/'.toNat < 128)
          rw [hrest] at hbeq
          simpa [hslash] using hbeq
        simp [commentEnd?, hb']
    · exact commentEnd?_cons (by rwa [hc]) _
  · rw [utf8_cons, commentEnd?_high hhigh, String.length_utf8EncodeChar]

/-- The end of a comment is found where it is in the text. -/
theorem commentEnd?_utf8 (cs : List Char) :
    ((commentEnd? (utf8 cs)).map (· + 2)).getD (Size.utf8 cs) + Size.utf8 (behindComment cs) =
      Size.utf8 cs := by
  induction cs with
  | nil => rfl
  | cons c cs ih =>
    by_cases hend : c = '*' ∧ cs.head? = some '/'
    · obtain ⟨rfl, hslash⟩ := hend
      obtain ⟨rest, rfl⟩ := List.head?_eq_some_iff.mp hslash
      change 0 + 2 + Size.utf8 rest = 1 + (1 + Size.utf8 rest)
      omega
    have hbehind : behindComment (c :: cs) = behindComment cs := if_neg (by simpa using hend)
    rw [commentEnd?_pass hend, hbehind, Size.utf8_cons]
    cases hfound : commentEnd? (utf8 cs) with
    | none =>
      rw [hfound] at ih
      simp only [Option.map_none, Option.getD_none] at ih ⊢
      omega
    | some n =>
      rw [hfound] at ih
      simp only [Option.map_some, Option.getD_some] at ih ⊢
      omega

theorem skipString_of_getElem? (q : Char) (h : bytes[i]? = some b) :
    skipString q bytes i =
      if asChar b == '\\' then skipString q bytes (i + 2)
      else if asChar b == q then i + 1
      else skipString q bytes (i + 1) := by
  obtain ⟨hi, rfl⟩ := List.getElem?_eq_some_iff.mp h
  rw [skipString, dif_pos hi]

theorem skipString_end (q : Char) (h : bytes.length ≤ i) : skipString q bytes i = bytes.length := by
  rw [skipString, dif_neg (Nat.not_lt_of_le h)]

theorem skipString_high (hq : q.toNat < 128) (h : bytes[i]? = some b) (hb : IsHigh b) :
    skipString q bytes i = skipString q bytes (i + 1) := by
  rw [skipString_of_getElem? q h, if_neg (by simpa using asChar_ne hb (by decide)),
    if_neg (by simpa using asChar_ne hb hq)]

/-- A backslash and a byte behind it lead into the next character, and the rest of its bytes are
passed over. -/
theorem skipString_escape (hq : q.toNat < 128) (h : IsLeft bytes i ('\\' :: d :: cs)) :
    skipString q bytes i = skipString q bytes (i + Size.utf8 ['\\', d]) := by
  have hstep : ∀ j b, bytes[j]? = some b → IsHigh b →
      skipString q bytes j = skipString q bytes (j + 1) :=
    fun j b hb hhigh => skipString_high hq hb hhigh
  have hsize : Size.utf8 ['\\', d] = 1 + d.utf8Size := rfl
  obtain ⟨slash, hat, ⟨hchar, -⟩ | ⟨-, hwide⟩⟩ := h.exists_byte
  · obtain ⟨pre, hbytes, rfl⟩ := h
    obtain ⟨b, more, hd⟩ := List.exists_cons_of_ne_nil (String.utf8EncodeChar_ne_nil (c := d))
    have hmore : ∀ b ∈ more, IsHigh b := by
      rcases encoding d with ⟨-, b', hb', -⟩ | ⟨-, hhigh⟩
      · rw [hd] at hb'
        rw [(List.cons.inj hb').2]
        exact nofun
      · rw [hd] at hhigh
        exact (List.forall_mem_cons.mp hhigh).2
    obtain ⟨slash', hslash⟩ : ∃ slash', String.utf8EncodeChar '\\' = [slash'] := ⟨_, rfl⟩
    have hsplit : bytes = (pre ++ [slash', b]) ++ (more ++ utf8 cs) := by
      simp [hbytes, hslash, hd]
    have hlength : d.utf8Size = more.length + 1 := by
      rw [← String.length_utf8EncodeChar, hd, List.length_cons]
    have hpast := passes_high hstep hsplit hmore
    rw [List.length_append] at hpast
    rw [skipString_of_getElem? q hat, if_pos (by simp [hchar]), hsize, hlength]
    refine hpast.trans (congrArg _ ?_)
    simp only [List.length_cons, List.length_nil]
    omega
  · exact absurd hwide (by decide)

/-- Any other character in a string is passed over. -/
theorem skipString_cons (hq : q.toNat < 128) (hescape : c ≠ '\\') (hquote : c ≠ q)
    (h : IsLeft bytes i (c :: cs)) :
    skipString q bytes i = skipString q bytes (i + c.utf8Size) := by
  obtain ⟨b, hat, ⟨hchar, hsize, -⟩ | ⟨-, hwide⟩⟩ := h.exists_byte
  · rw [skipString_of_getElem? q hat, hchar, if_neg (by simpa using hescape),
      if_neg (by simpa using hquote), hsize]
  · exact h.passes hwide fun j b' hb' hhigh => skipString_high hq hb' hhigh

/-- The quote that closes a string is the last byte of it. -/
theorem skipString_quote (hq : q.toNat < 128) (hescape : q ≠ '\\') (h : IsLeft bytes i (q :: cs)) :
    skipString q bytes i = i + q.utf8Size := by
  obtain ⟨b, hat, ⟨hchar, hsize, -⟩ | ⟨-, hwide⟩⟩ := h.exists_byte
  · rw [skipString_of_getElem? q hat, hchar, if_neg (by simpa using hescape), if_pos (by simp),
      hsize]
  · omega

/-- The end of a string is found where it is in the text. -/
theorem skipString_utf8 (hq : q.toNat < 128) (h : IsLeft bytes i cs) :
    skipString q bytes i + Size.utf8 (behindString q cs) = bytes.length := by
  fun_induction behindString q cs generalizing i with
  | case1 =>
    have hend := h.add_size
    rw [Size.utf8_nil] at hend ⊢
    rw [skipString_end q (by omega), Nat.add_zero]
  | case2 c =>
    have hend := h.next.add_size
    rw [Size.utf8_nil] at hend ⊢
    by_cases hescape : c = '\\'
    · subst hescape
      have hone : '\\'.utf8Size = 1 := rfl
      obtain ⟨slash, hat, ⟨hchar, -⟩ | ⟨-, hwide⟩⟩ := h.exists_byte
      · rw [skipString_of_getElem? q hat, if_pos (by simp [hchar]), skipString_end q (by omega),
          Nat.add_zero]
      · exact absurd hwide (by decide)
    by_cases hquote : c = q
    · subst hquote
      rw [skipString_quote hq hescape h, ← hend]
    · rw [skipString_cons hq hescape hquote h, skipString_end q (by omega), Nat.add_zero]
  | case3 c d cs hescape ih =>
    obtain rfl : c = '\\' := by simpa using hescape
    rw [skipString_escape hq h]
    exact ih (h.behind (a := ['\\', d]))
  | case4 c d cs hescape hquote =>
    obtain rfl : c = q := by simpa using hquote
    rw [skipString_quote hq (by simpa using hescape) h]
    exact h.next.add_size
  | case5 c d cs hescape hquote ih =>
    rw [skipString_cons hq (by simpa using hescape) (by simpa using hquote) h]
    exact ih h.next

theorem skipOpaque_none (h : bytes[i]? = some b)
    (hopen : (asChar b == '/' && (bytes[i + 1]?.map asChar == some '*')) = false)
    (hquote : Shield.isQuote (asChar b) = false) : skipOpaque bytes i = .ok none := by
  rw [skipOpaque, byteAt_of_getElem? h]
  change (if _ then _ else if _ then _ else _) = _
  rw [hopen, hquote]
  rfl

/-- A string is jumped over. -/
theorem skipOpaque_string (h : IsLeft bytes i (q :: cs)) (hquote : Shield.isQuote q = true) :
    skipOpaque bytes i = .ok (some (bytes.length - Size.utf8 (behindString q cs))) := by
  have hascii := toNat_lt_of_isQuote hquote
  have hslash : q ≠ '/' := by
    rintro rfl
    exact absurd hquote (by decide)
  obtain ⟨b, hat, ⟨rfl, -⟩ | ⟨-, hwide⟩⟩ := h.exists_byte
  · have hend := skipString_utf8 hascii (h.tail hascii)
    rw [skipOpaque, byteAt_of_getElem? hat]
    change (if _ then _ else if _ then _ else _) = _
    rw [if_neg (by simp [hslash]), if_pos hquote]
    refine congrArg (fun n => Except.ok (some n)) ?_
    omega
  · omega

/-- A comment is jumped over. -/
theorem skipOpaque_comment (h : IsLeft bytes i ('/' :: '*' :: cs)) :
    skipOpaque bytes i = .ok (some (bytes.length - Size.utf8 (behindComment cs))) := by
  have hnext := h.tail (by decide)
  have hinside := hnext.tail (by decide)
  have hstar := hnext.head?_beq (by decide : '*'.toNat < 128)
  have hend := commentEnd?_utf8 cs
  have htotal := hinside.add_size
  obtain ⟨b, hat, ⟨hslash, -⟩ | ⟨-, hwide⟩⟩ := h.exists_byte
  · rw [skipOpaque, byteAt_of_getElem? hat]
    change (if _ then _ else if _ then _ else _) = _
    rw [if_pos (by simp [hslash, hstar]), hinside.slice, bind_ok]
    cases hfound : commentEnd? (utf8 cs) with
    | none =>
      rw [hfound] at hend
      refine congrArg (fun n => Except.ok (some n)) ?_
      simp only [Option.map_none, Option.getD_none] at hend
      omega
    | some n =>
      rw [hfound] at hend
      refine congrArg (fun n => Except.ok (some n)) ?_
      simp only [Option.map_some, Option.getD_some] at hend
      omega
  · exact absurd hwide (by decide)

/-- No comment and no string begins with a byte that stands for no ASCII character. -/
theorem skipOpaque_high (h : bytes[i]? = some b) (hb : IsHigh b) :
    skipOpaque bytes i = .ok none :=
  skipOpaque_none h (by simp [asChar_ne hb (by decide : '/'.toNat < 128)]) (isQuote_of_wide hb)

/-- The walk jumps over what a reader of characters jumps over. -/
theorem skipOpaque_utf8 (h : IsLeft bytes i (c :: cs)) :
    skipOpaque bytes i = .ok ((behindOpaque? (c :: cs)).map fun rest =>
      bytes.length - Size.utf8 rest) := by
  rw [behindOpaque?]
  split
  · next hopen =>
    simp only [Bool.and_eq_true, beq_iff_eq] at hopen
    obtain ⟨rfl, hstar⟩ := hopen
    obtain ⟨inner, rfl⟩ := List.head?_eq_some_iff.mp hstar
    exact skipOpaque_comment h
  split
  · next hquote => exact skipOpaque_string h hquote
  next hopen hquote =>
    obtain ⟨b, hat, ⟨rfl, -, hascii⟩ | ⟨hhigh, -⟩⟩ := h.exists_byte
    · refine skipOpaque_none hat ?_ (by simpa using hquote)
      rw [(h.tail hascii).head?_beq (by decide)]
      simpa using hopen
    · exact skipOpaque_high hat hhigh

end MediaQuery.Bytes
