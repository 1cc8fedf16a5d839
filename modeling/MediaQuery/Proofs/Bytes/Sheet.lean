import MediaQuery.Proofs.Bytes.Jump

/-!
# Media rules by byte

A walk over the bytes of a stylesheet finds the media rules that a reader of its characters finds,
and does not slip on the way. Every loop of the walk takes notice of a few characters of ASCII alone
(`IsWalk`), so that wherever it stops it is between two characters.

* `scan_eq` — the law for stylesheets
-/

namespace MediaQuery.Bytes

open Css (Shield Phase RawBlock Fault)

variable {α : Type} {c d : Char} {cs rest consumed : List Char} {bytes : List UInt8} {i : Nat}

/-! ## Walks -/

/-- A loop over bytes goes on behind comments and strings, and by one at every other byte that does
not stand for one of some characters. -/
structure IsWalk (marks : List Char) (bytes : List UInt8) (loop : Nat → α) : Prop where
  jump : ∀ {i next}, i < bytes.length → skipOpaque bytes i = .ok (some next) → i < next →
    loop i = loop next
  pass : ∀ {i b}, bytes[i]? = some b → skipOpaque bytes i = .ok none → asChar b ∉ marks →
    loop i = loop (i + 1)

namespace IsWalk

variable {marks : List Char} {loop : Nat → α}

/-- A walk jumps over the comment or the string that a text begins with. -/
theorem jump_eq (hwalk : IsWalk marks bytes loop) (h : IsLeft bytes i (consumed ++ rest))
    (hne : consumed ≠ []) (hcs : behindOpaque? (consumed ++ rest) = some rest) :
    loop i = loop (i + Size.utf8 consumed) := by
  have hpos := Size.utf8_pos hne
  obtain ⟨c, consumed, rfl⟩ := List.exists_cons_of_ne_nil hne
  have hend := h.behind.add_size
  rw [List.cons_append] at h
  have hjump := skipOpaque_utf8 h
  have hnext : bytes.length - Size.utf8 rest = i + Size.utf8 (c :: consumed) := by omega
  rw [← List.cons_append, hcs, Option.map_some, hnext] at hjump
  exact hwalk.jump (by omega) hjump (Nat.lt_add_of_pos_right hpos)

/-- A walk passes over a character that it takes no notice of. -/
theorem char_eq (hwalk : IsWalk marks bytes loop) (h : IsLeft bytes i (c :: cs))
    (hmarks : ∀ d ∈ marks, d.toNat < 128) (hnone : behindOpaque? (c :: cs) = none)
    (hc : c ∉ marks) : loop i = loop (i + c.utf8Size) := by
  obtain ⟨b, hat, ⟨hchar, hsize, -⟩ | ⟨-, hwide⟩⟩ := h.exists_byte
  · have hskip := skipOpaque_utf8 h
    rw [hnone] at hskip
    rw [hwalk.pass hat hskip (by rwa [hchar]), hsize]
  · refine h.passes hwide fun j b hb hhigh => ?_
    exact hwalk.pass hb (skipOpaque_high hb hhigh) fun hmem => asChar_ne hhigh (hmarks _ hmem) rfl

end IsWalk

/-- A mark is one byte, with which no comment and no string begins. -/
theorem exists_mark (hd : d ∈ Phase.marks) (h : IsLeft bytes i (d :: cs)) :
    ∃ hi : i < bytes.length, asChar bytes[i] = d ∧ skipOpaque bytes i = .ok none ∧
      IsLeft bytes (i + 1) cs := by
  have hmarks : ∀ d ∈ Phase.marks, d.toNat < 128 ∧ d ≠ '/' ∧ Shield.isQuote d = false :=
    forall_mem_of_all (by decide)
  obtain ⟨hascii, hslash, hquote⟩ := hmarks d hd
  have hskip := skipOpaque_utf8 h
  rw [behindOpaque?, beq_false_of_ne hslash, hquote] at hskip
  obtain ⟨b, hat, ⟨hchar, -⟩ | ⟨-, hwide⟩⟩ := h.exists_byte
  · obtain ⟨hi, rfl⟩ := List.getElem?_eq_some_iff.mp hat
    exact ⟨hi, hchar, hskip, h.tail hascii⟩
  · omega

/-! ### To the opening of a block -/

theorem isWalk_findBlockOpen (bytes : List UInt8) :
    IsWalk ['{', ';'] bytes (findBlockOpen bytes) where
  jump hi hskip hnext := by
    rw [findBlockOpen, dif_pos hi, hskip, bind_ok]
    exact if_pos hnext
  pass hat hskip hmark := by
    obtain ⟨hi, rfl⟩ := List.getElem?_eq_some_iff.mp hat
    rw [findBlockOpen, dif_pos hi, hskip, bind_ok]
    exact if_neg (by simpa using hmark)

theorem findBlockOpen_mark (hd : d = '{' ∨ d = ';') (h : IsLeft bytes i (d :: cs)) :
    findBlockOpen bytes i = .ok (some i) := by
  have hmark : d ∈ Phase.marks := by rcases hd with rfl | rfl <;> decide
  obtain ⟨hi, hchar, hskip, -⟩ := exists_mark hmark h
  rw [findBlockOpen, dif_pos hi, hskip, bind_ok, hchar]
  exact if_pos (by simpa using hd)

/-- Where a block or a semicolon is found behind a keyword, a reader of characters finds it too; and
where none is found, none is there. -/
theorem findBlockOpen_utf8 (h : IsLeft bytes i cs) :
    (findBlockOpen bytes i = .ok none ∧
      ∀ position start read, Css.scanFrom position (.prelude start read) .plain cs =
        ([], some (.noBlock start))) ∨
    ∃ front d rest, cs = front ++ d :: rest ∧ (d = '{' ∨ d = ';') ∧
      findBlockOpen bytes i = .ok (some (i + Size.utf8 front)) ∧
      ∀ position start read, Css.scanFrom position (.prelude start read) .plain cs =
        Css.scanFrom (position + Size.utf8 front)
          (.prelude start (front.reverse ++ read)) .plain (d :: rest) := by
  induction cs using walk_induction generalizing i with
  | nil =>
    have hend := h.add_size
    rw [Size.utf8_nil] at hend
    refine Or.inl ⟨?_, fun _ _ _ => rfl⟩
    rw [findBlockOpen, dif_neg (by omega)]
    rfl
  | jump consumed rest hne hcover hhidden ih =>
    rw [(isWalk_findBlockOpen bytes).jump_eq h hne hcover]
    rcases ih h.behind with ⟨hnone, hscan⟩ | ⟨front, d, rest, rfl, hd, hfound, hscan⟩
    · refine Or.inl ⟨hnone, fun position start read => ?_⟩
      rw [hhidden, Phase.keepAll_prelude, hscan]
    · refine Or.inr ⟨consumed ++ front, d, rest, by simp, hd, ?_, fun position start read => ?_⟩
      · rw [hfound, Size.utf8_append, Nat.add_assoc]
      · rw [hhidden, Phase.keepAll_prelude, hscan]
        simp [Nat.add_assoc]
  | char c cs hcover ih =>
    by_cases hc : c = '{' ∨ c = ';'
    · exact Or.inr ⟨[], c, cs, rfl, hc, findBlockOpen_mark hc h, fun _ _ _ => rfl⟩
    have hpass := (isWalk_findBlockOpen bytes).char_eq h (forall_mem_of_all (by decide)) hcover
      (by simpa using hc)
    have hscan : ∀ position start read,
        Css.scanFrom position (.prelude start read) .plain (c :: cs) =
          Css.scanFrom (position + c.utf8Size) (.prelude start (c :: read)) .plain cs :=
      fun position start read => scanFrom_char hcover (by
        obtain ⟨hopen, hend⟩ := not_or.mp hc
        simp [Phase.step, Phase.keep, hopen, hend])
    rw [hpass]
    rcases ih h.next with ⟨hnone, hrest⟩ | ⟨front, d, rest, rfl, hd, hfound, hrest⟩
    · exact Or.inl ⟨hnone, fun position start read => by rw [hscan, hrest]⟩
    · refine Or.inr ⟨c :: front, d, rest, rfl, hd, ?_, fun position start read => ?_⟩
      · rw [hfound, Size.utf8_cons, Nat.add_assoc]
      · rw [hscan, hrest, Size.utf8_cons, List.reverse_cons, List.append_assoc, Nat.add_assoc]
        rfl

/-! ### To the end of a block -/

theorem isWalk_findBlockClose (bytes : List UInt8) (depth : Nat) :
    IsWalk ['{', '}'] bytes (findBlockClose bytes · depth) where
  jump hi hskip hnext := by
    rw [findBlockClose, dif_pos hi, hskip, bind_ok]
    exact if_pos hnext
  pass hat hskip hmark := by
    obtain ⟨hi, rfl⟩ := List.getElem?_eq_some_iff.mp hat
    obtain ⟨hopen, hclose⟩ : asChar _ ≠ '{' ∧ asChar _ ≠ '}' := by simpa using hmark
    rw [findBlockClose, dif_pos hi, hskip, bind_ok]
    exact (if_neg (by simpa using hopen)).trans (if_neg (by simpa using hclose))

theorem findBlockClose_open (h : IsLeft bytes i ('{' :: cs)) (depth : Nat) :
    findBlockClose bytes i depth = findBlockClose bytes (i + 1) (depth + 1) := by
  obtain ⟨hi, hchar, hskip, -⟩ := exists_mark (by decide) h
  rw [findBlockClose, dif_pos hi, hskip, bind_ok, hchar]
  rfl

/-- The counter of a walk that is inside a block does not go below zero. -/
theorem findBlockClose_close (h : IsLeft bytes i ('}' :: cs)) (depth : Nat) :
    findBlockClose bytes i (depth + 1) =
      if depth = 0 then .ok (some i) else findBlockClose bytes (i + 1) depth := by
  obtain ⟨hi, hchar, hskip, -⟩ := exists_mark (by decide) h
  rw [findBlockClose, dif_pos hi, hskip, bind_ok, hchar]
  rfl

/-- One more character in a block that does not close it, for a walk and for a reader of
characters. -/
theorem exists_depth_of_ne (hcover : behindOpaque? (c :: cs) = none) (h : IsLeft bytes i (c :: cs))
    {depth : Nat} (hc : c = '}' → depth ≠ 0) :
    ∃ depth', findBlockClose bytes i (depth + 1) =
        findBlockClose bytes (i + c.utf8Size) (depth' + 1) ∧
      ∀ position start p read, Css.scanFrom position (.body start p depth read) .plain (c :: cs) =
        Css.scanFrom (position + c.utf8Size) (.body start p depth' (c :: read)) .plain cs := by
  by_cases hopen : c = '{'
  · subst hopen
    exact ⟨depth + 1, findBlockClose_open h _, fun _ _ _ _ => scanFrom_char hcover rfl⟩
  by_cases hclose : c = '}'
  · subst hclose
    obtain ⟨outer, rfl⟩ := Nat.exists_eq_succ_of_ne_zero (hc rfl)
    exact ⟨outer, findBlockClose_close h _, fun _ _ _ _ => scanFrom_char hcover rfl⟩
  · have hpass := (isWalk_findBlockClose bytes (depth + 1)).char_eq h
      (forall_mem_of_all (by decide)) hcover (by simp [hopen, hclose])
    exact ⟨depth, hpass, fun _ _ _ _ => scanFrom_char hcover (by
      simp [Phase.step, Phase.keep, hopen, hclose])⟩

/-- Where the end of a block is found, a reader of characters has read the block to its end; and
where none is found, the block is not closed. -/
theorem findBlockClose_utf8 (h : IsLeft bytes i cs) (depth : Nat) :
    (findBlockClose bytes i (depth + 1) = .ok none ∧
      ∀ position start p read, Css.scanFrom position (.body start p depth read) .plain cs =
        ([], some (.unterminated start))) ∨
    ∃ body rest, cs = body ++ '}' :: rest ∧
      findBlockClose bytes i (depth + 1) = .ok (some (i + Size.utf8 body)) ∧
      ∀ position start p read, Css.scanFrom position (.body start p depth read) .plain cs =
        Css.scanFrom (position + Size.utf8 body) (.body start p 0 (body.reverse ++ read)) .plain
          ('}' :: rest) := by
  induction cs using walk_induction generalizing i depth with
  | nil =>
    have hend := h.add_size
    rw [Size.utf8_nil] at hend
    refine Or.inl ⟨?_, fun _ _ _ _ => rfl⟩
    rw [findBlockClose, dif_neg (by omega)]
    rfl
  | jump consumed rest hne hcover hhidden ih =>
    rw [(isWalk_findBlockClose bytes (depth + 1)).jump_eq h hne hcover]
    rcases ih h.behind depth with ⟨hnone, hscan⟩ | ⟨body, rest, rfl, hfound, hscan⟩
    · refine Or.inl ⟨hnone, fun position start p read => ?_⟩
      rw [hhidden, Phase.keepAll_body, hscan]
    · refine Or.inr ⟨consumed ++ body, rest, by simp, ?_, fun position start p read => ?_⟩
      · rw [hfound, Size.utf8_append, Nat.add_assoc]
      · rw [hhidden, Phase.keepAll_body, hscan]
        simp [Nat.add_assoc]
  | char c cs hcover ih =>
    by_cases hend : c = '}' ∧ depth = 0
    · obtain ⟨rfl, rfl⟩ := hend
      exact Or.inr ⟨[], cs, rfl, findBlockClose_close h 0, fun _ _ _ _ => rfl⟩
    obtain ⟨depth', hpass, hscan⟩ := exists_depth_of_ne hcover h fun hc hdepth => hend ⟨hc, hdepth⟩
    rw [hpass]
    rcases ih h.next depth' with ⟨hnone, hrest⟩ | ⟨body, rest, rfl, hfound, hrest⟩
    · exact Or.inl ⟨hnone, fun position start p read => by rw [hscan, hrest]⟩
    · refine Or.inr ⟨c :: body, rest, rfl, ?_, fun position start p read => ?_⟩
      · rw [hfound, Size.utf8_cons, Nat.add_assoc]
      · rw [hscan, hrest, Size.utf8_cons, List.reverse_cons, List.append_assoc, Nat.add_assoc]
        rfl

/-! ### Over a stylesheet -/

theorem keyword_ascii : ∀ w ∈ Css.keyword, w.toNat < 128 := forall_mem_of_all (by decide +kernel)

/-- The keyword of a media rule stands at an index if the text that is left there begins with it. -/
theorem isMediaKeyword_utf8 (h : IsLeft bytes i cs) :
    isMediaKeyword bytes i = Css.startsRule cs := by
  rw [isMediaKeyword, h.spells keyword_ascii, Css.startsRule]
  cases hdrop : Ascii.dropWord? Css.keyword cs with
  | none => rfl
  | some rest =>
    have hclass : IsAsciiClass fun c => Ascii.isSpace c || c == '(' :=
      isAsciiClass_isSpace.or (isAsciiClass_beq (by decide))
    have hnext := (h.dropWord keyword_ascii hdrop).head?_class hclass
    rw [Option.isSome_some, Bool.true_and]
    cases hbyte : bytes[i + Css.keyword.length]? with
    | none =>
      rw [hbyte] at hnext
      cases rest with
      | nil => rfl
      | cons d rest => exact absurd hnext (by simp)
    | some b =>
      rw [hbyte] at hnext
      cases rest with
      | nil => exact absurd hnext (by simp)
      | cons d rest => exact Option.some.inj hnext

theorem isWalk_scanFrom (text : List Char) (bytes : List UInt8) (depth : Nat) :
    IsWalk ['{', '}', '@'] bytes (scanFrom text bytes · depth) where
  jump hi hskip hnext := by
    rw [scanFrom, dif_pos hi, hskip, bind_ok]
    exact if_pos hnext
  pass hat hskip hmark := by
    obtain ⟨hi, rfl⟩ := List.getElem?_eq_some_iff.mp hat
    simp only [List.mem_cons, List.not_mem_nil, or_false, not_or] at hmark
    rw [scanFrom, dif_pos hi, hskip, bind_ok]
    refine (if_neg (by simpa using hmark.1)).trans ((if_neg (by simpa using hmark.2.1)).trans ?_)
    exact if_neg (by simp [hmark.2.2])

theorem scanFrom_open (text : List Char) (h : IsLeft bytes i ('{' :: cs)) (depth : Nat) :
    scanFrom text bytes i depth = scanFrom text bytes (i + 1) (depth + 1) := by
  obtain ⟨hi, hchar, hskip, -⟩ := exists_mark (by decide) h
  rw [scanFrom, dif_pos hi, hskip, bind_ok, hchar]
  rfl

theorem scanFrom_close (text : List Char) (h : IsLeft bytes i ('}' :: cs)) (depth : Nat) :
    scanFrom text bytes i depth = scanFrom text bytes (i + 1) (depth - 1) := by
  obtain ⟨hi, hchar, hskip, -⟩ := exists_mark (by decide) h
  rw [scanFrom, dif_pos hi, hskip, bind_ok, hchar]
  rfl

/-- An at-sign is passed over unless a media rule begins with it at the top level. -/
theorem scanFrom_at_of_not (text : List Char) (h : IsLeft bytes i ('@' :: cs)) {depth : Nat}
    (hnot : ¬ (depth = 0 ∧ Css.startsRule ('@' :: cs) = true)) :
    scanFrom text bytes i depth = scanFrom text bytes (i + 1) depth := by
  obtain ⟨hi, hchar, hskip, -⟩ := exists_mark (by decide) h
  have hrule : (('@' == '@') && depth == 0 && Css.startsRule ('@' :: cs)) = false := by
    rw [Bool.eq_false_iff]
    simpa using hnot
  rw [scanFrom, dif_pos hi, hskip, bind_ok, hchar, isMediaKeyword_utf8 h, hrule]
  rfl

theorem scanFrom_rule (text : List Char) (h : IsLeft bytes i ('@' :: cs))
    (hstart : Css.startsRule ('@' :: cs) = true) :
    scanFrom text bytes i 0 =
      ruleAt text bytes i >>= fun
        | .unfinished fault => return ([], some fault)
        | .blockless next => if i < next then scanFrom text bytes next 0 else .error .stuck
        | .block block next =>
          if i < next then do
            let rest ← scanFrom text bytes next 0
            return (block :: rest.1, rest.2)
          else .error .stuck := by
  obtain ⟨hi, hchar, hskip, -⟩ := exists_mark (by decide) h
  rw [scanFrom, dif_pos hi, hskip, bind_ok, hchar, isMediaKeyword_utf8 h, hstart]
  rfl

/-- The brace that closes a block completes it. -/
theorem scanFrom_closing (position start : Nat) (p read cs : List Char) :
    Css.scanFrom position (.body start p 0 read) .plain ('}' :: cs) =
      (⟨p, read.reverse⟩ :: (Css.scanFrom (position + '}'.utf8Size) (.outside 0) .plain cs).1,
        (Css.scanFrom (position + '}'.utf8Size) (.outside 0) .plain cs).2) :=
  Css.scanFrom_completed rfl rfl

/-- What a walk has come upon where a media rule begins is what a reader of characters finds there,
and it goes on behind a part of the text. -/
def Rule.Agrees (front cs : List Char) : Rule → Prop
  | .unfinished fault =>
    Css.scanFrom (Size.utf8 front) (.outside 0) .plain cs = ([], some fault)
  | .blockless next => ∃ consumed rest, cs = consumed ++ rest ∧ consumed ≠ [] ∧
    next = Size.utf8 (front ++ consumed) ∧
    Css.scanFrom (Size.utf8 front) (.outside 0) .plain cs =
      Css.scanFrom next (.outside 0) .plain rest
  | .block found next => ∃ consumed rest, cs = consumed ++ rest ∧ consumed ≠ [] ∧
    next = Size.utf8 (front ++ consumed) ∧
    Css.scanFrom (Size.utf8 front) (.outside 0) .plain cs =
      (found :: (Css.scanFrom next (.outside 0) .plain rest).1,
        (Css.scanFrom next (.outside 0) .plain rest).2)

theorem IsKeyword.size_eq {word : List Char} (h : Css.IsKeyword word) :
    Size.utf8 word = Css.keyword.length := size_of_sameLetters keyword_ascii h

/-- Where the block of a media rule opens, the walk finds its end, and cuts out what stands before
it and in it; or the block is not closed. -/
theorem exists_blockAt {front word p rest : List Char} (hword : Size.utf8 word = Css.keyword.length)
    (hscan : Css.scanFrom (Size.utf8 front) (.outside 0) .plain (word ++ (p ++ '{' :: rest)) =
      Css.scanFrom (Size.utf8 (front ++ word ++ p) + 1) (.body (Size.utf8 front) p 0 []) .plain
        rest) :
    ∃ rule, blockAt (front ++ (word ++ (p ++ '{' :: rest)))
        (utf8 (front ++ (word ++ (p ++ '{' :: rest)))) (Size.utf8 front)
        (Size.utf8 (front ++ word ++ p)) = .ok rule ∧
      rule.Agrees front (word ++ (p ++ '{' :: rest)) := by
  have hbrace : Size.utf8 (front ++ word ++ p) + 1 = Size.utf8 (front ++ word ++ p ++ ['{']) := by
    rw [Size.utf8_append _ ['{']]
    rfl
  have hinside : IsLeft (utf8 (front ++ (word ++ (p ++ '{' :: rest))))
      (Size.utf8 (front ++ word ++ p) + 1) rest := by
    rw [hbrace]
    simpa using IsLeft.append (front ++ word ++ p ++ ['{']) rest
  rw [blockAt]
  rcases findBlockClose_utf8 hinside 0 with ⟨hnone, hrest⟩ | ⟨body, rest, rfl, hfound, hrest⟩
  · refine ⟨.unfinished (.unterminated (Size.utf8 front)), ?_, ?_⟩
    · rw [hnone]
      rfl
    · rw [Rule.Agrees, hscan, hrest]
  -- both pieces are cut out between characters
  have hprelude : cut (front ++ (word ++ (p ++ '{' :: (body ++ '}' :: rest))))
      (Size.utf8 front + Css.keyword.length) (Size.utf8 (front ++ word ++ p)) = .ok p := by
    rw [← List.append_assoc front, ← hword, ← Size.utf8_append]
    exact cut_append (front ++ word) p _ rfl rfl
  have hbody : cut (front ++ (word ++ (p ++ '{' :: (body ++ '}' :: rest))))
      (Size.utf8 (front ++ word ++ p) + 1)
      (Size.utf8 (front ++ word ++ p) + 1 + Size.utf8 body) = .ok body := by
    have htext : front ++ (word ++ (p ++ '{' :: (body ++ '}' :: rest))) =
        (front ++ word ++ p ++ ['{']) ++ (body ++ '}' :: rest) := by simp
    rw [htext, hbrace, ← Size.utf8_append]
    exact cut_append _ body _ rfl rfl
  have hclosing : Size.utf8 (front ++ word ++ p) + 1 + Size.utf8 body + 1 =
      Size.utf8 (front ++ (word ++ (p ++ '{' :: (body ++ ['}'])))) := by
    simp [Nat.add_assoc]
    rfl
  refine ⟨.block ⟨p, body⟩ (Size.utf8 (front ++ (word ++ (p ++ '{' :: (body ++ ['}']))))), ?_,
    word ++ (p ++ '{' :: (body ++ ['}'])), rest, by simp, by simp, rfl, ?_⟩
  · rw [hfound, bind_ok]
    dsimp only
    rw [hprelude, bind_ok, hbody, bind_ok, hclosing]
    rfl
  · rw [hscan, hrest, scanFrom_closing, ← hclosing, List.append_nil, List.reverse_reverse]
    rfl

/-- Where a media rule begins, the walk comes upon what a reader of characters finds. -/
theorem exists_ruleAt (hstart : Css.startsRule cs = true) (front : List Char) :
    ∃ rule, ruleAt (front ++ cs) (utf8 (front ++ cs)) (Size.utf8 front) = .ok rule ∧
      rule.Agrees front cs := by
  obtain ⟨word, after, rfl, hword, hfollows⟩ := Css.startsRule_iff.mp hstart
  obtain ⟨letters, hletters, -⟩ := hword.exists_letters
  have hsize := IsKeyword.size_eq hword
  have hkeyword := Css.scanFrom_keyword (Size.utf8 front) hword hfollows
  have hafter : IsLeft (utf8 (front ++ (word ++ after))) (Size.utf8 front + Css.keyword.length)
      after := by
    rw [← hsize]
    exact (IsLeft.append front (word ++ after)).behind
  rw [ruleAt]
  rcases findBlockOpen_utf8 hafter with ⟨hnone, hscan⟩ | ⟨p, d, rest, rfl, hd, hfound, hscan⟩
  · refine ⟨.unfinished (.noBlock (Size.utf8 front)), ?_, ?_⟩
    · rw [hnone]
      rfl
    · rw [Rule.Agrees, hkeyword, hscan]
  have hopening : Size.utf8 front + Css.keyword.length + Size.utf8 p =
      Size.utf8 (front ++ word ++ p) := by
    rw [Size.utf8_append, Size.utf8_append, hsize]
  have hmark : d ∈ Phase.marks := by rcases hd with rfl | rfl <;> decide
  obtain ⟨hi, hchar, -, -⟩ := exists_mark hmark hafter.behind
  rw [hfound, bind_ok]
  dsimp only
  rw [byteAt_of_getElem? (List.getElem?_eq_getElem hi), bind_ok, hchar, hopening]
  have hscan' : Css.scanFrom (Size.utf8 front) (.outside 0) .plain (word ++ (p ++ d :: rest)) =
      Css.scanFrom (Size.utf8 (front ++ word ++ p)) (.prelude (Size.utf8 front) p.reverse) .plain
        (d :: rest) := by
    rw [hkeyword, hscan, List.append_nil, Size.utf8_append, Size.utf8_append]
  -- a block opens, or a semicolon stands for it
  rcases hd with rfl | rfl
  · rw [if_neg (by decide)]
    refine exists_blockAt hsize ?_
    rw [hscan', scanFrom_char rfl rfl, List.reverse_reverse]
    rfl
  · refine ⟨.blockless (Size.utf8 (front ++ word ++ p) + 1), rfl, word ++ (p ++ [';']), rest,
      by simp, by simp [hletters], ?_, ?_⟩
    · simp [Nat.add_assoc]
      rfl
    · rw [hscan', scanFrom_char rfl rfl]
      rfl

/-- A character that no media rule begins with, for a walk and for a reader of characters. -/
theorem exists_outside_of_not (hcover : behindOpaque? (c :: cs) = none) (text : List Char)
    (h : IsLeft bytes i (c :: cs)) {depth : Nat}
    (hrule : ¬ (depth = 0 ∧ Css.startsRule (c :: cs) = true)) :
    ∃ depth', scanFrom text bytes i depth = scanFrom text bytes (i + c.utf8Size) depth' ∧
      ∀ position, Css.scanFrom position (.outside depth) .plain (c :: cs) =
        Css.scanFrom (position + c.utf8Size) (.outside depth') .plain cs := by
  by_cases hopen : c = '{'
  · subst hopen
    exact ⟨depth + 1, scanFrom_open text h depth, fun _ => scanFrom_char hcover rfl⟩
  by_cases hclose : c = '}'
  · subst hclose
    exact ⟨depth - 1, scanFrom_close text h depth, fun _ => scanFrom_char hcover rfl⟩
  refine ⟨depth, ?_, fun _ => scanFrom_char hcover ?_⟩
  · by_cases hat : c = '@'
    · subst hat
      exact scanFrom_at_of_not text h hrule
    · exact (isWalk_scanFrom text bytes depth).char_eq h (forall_mem_of_all (by decide)) hcover
        (by simp [hopen, hclose, hat])
  · have hnone : (c == '@' && depth == 0 && Css.startsRule (c :: cs)) = false :=
      Bool.eq_false_iff.mpr fun h => hrule (by
        simp only [Bool.and_eq_true, beq_iff_eq] at h
        exact ⟨h.1.2, h.2⟩)
    simp [Phase.step, hopen, hclose, hnone]

/-- A media rule begins with an at-sign. -/
theorem eq_at_of_startsRule (h : Css.startsRule (c :: cs) = true) : c = '@' := by
  obtain ⟨word, after, htext, hword, -⟩ := Css.startsRule_iff.mp h
  obtain ⟨letters, rfl, -⟩ := hword.exists_letters
  exact (List.cons.inj htext).1

/-- Behind every part of the text that is left behind some text, the walk finds what a reader of
characters finds there. -/
def AgreesBehind (front cs : List Char) : Prop :=
  ∀ consumed rest, cs = consumed ++ rest → consumed ≠ [] → ∀ depth,
    scanFrom (front ++ cs) (utf8 (front ++ cs)) (Size.utf8 (front ++ consumed)) depth =
      .ok (Css.scanFrom (Size.utf8 (front ++ consumed)) (.outside depth) .plain rest)

namespace AgreesBehind

variable {front : List Char}

/-- A comment or a string is left behind in one jump. -/
theorem at_opaque (h : AgreesBehind front cs) (hcover : behindOpaque? cs = some rest)
    (depth : Nat) :
    scanFrom (front ++ cs) (utf8 (front ++ cs)) (Size.utf8 front) depth =
      .ok (Css.scanFrom (Size.utf8 front) (.outside depth) .plain cs) := by
  obtain ⟨consumed, rfl, hne, hhidden⟩ := scanFrom_behindOpaque hcover
  have hjump := (isWalk_scanFrom (front ++ (consumed ++ rest)) _ depth).jump_eq
    (IsLeft.append front (consumed ++ rest)) hne hcover
  rw [hhidden, Phase.keepAll_outside, ← Size.utf8_append, ← h consumed rest rfl hne,
    Size.utf8_append]
  exact hjump

/-- A media rule is left behind in one step, whatever the walk comes upon there. -/
theorem at_rule (h : AgreesBehind front ('@' :: cs))
    (hstart : Css.startsRule ('@' :: cs) = true) :
    scanFrom (front ++ '@' :: cs) (utf8 (front ++ '@' :: cs)) (Size.utf8 front) 0 =
      .ok (Css.scanFrom (Size.utf8 front) (.outside 0) .plain ('@' :: cs)) := by
  obtain ⟨rule, hrule, hagrees⟩ := exists_ruleAt hstart front
  rw [scanFrom_rule _ (IsLeft.append front ('@' :: cs)) hstart, hrule, bind_ok]
  cases rule with
  | unfinished fault =>
    have hscan : Css.scanFrom _ _ _ _ = ([], some fault) := hagrees
    exact congrArg Except.ok hscan.symm
  | blockless next =>
    obtain ⟨consumed, rest, hcs, hne, rfl, hscan⟩ := hagrees
    exact (if_pos (Size.utf8_lt_append front hne)).trans
      ((h consumed rest hcs hne 0).trans (congrArg Except.ok hscan.symm))
  | block block next =>
    obtain ⟨consumed, rest, hcs, hne, rfl, hscan⟩ := hagrees
    refine (if_pos (Size.utf8_lt_append front hne)).trans ?_
    rw [h consumed rest hcs hne, bind_ok, hscan]
    rfl

/-- Any other character is left behind by itself. -/
theorem at_char (h : AgreesBehind front (c :: cs)) (hcover : behindOpaque? (c :: cs) = none)
    {depth : Nat} (hrule : ¬ (depth = 0 ∧ Css.startsRule (c :: cs) = true)) :
    scanFrom (front ++ c :: cs) (utf8 (front ++ c :: cs)) (Size.utf8 front) depth =
      .ok (Css.scanFrom (Size.utf8 front) (.outside depth) .plain (c :: cs)) := by
  obtain ⟨depth', hpass, hscan⟩ := exists_outside_of_not hcover (front ++ c :: cs)
    (IsLeft.append front (c :: cs)) hrule
  have hrest := h [c] cs rfl (List.cons_ne_nil _ _) depth'
  rw [Size.utf8_append] at hrest
  rw [hscan, hpass]
  exact hrest

end AgreesBehind

/-- From between any two characters of a stylesheet on, the walk finds what a reader of characters
finds. A media rule is left behind in one step, so that the induction is on how long the rest is. -/
theorem scanFrom_utf8 (front cs : List Char) (depth : Nat) :
    scanFrom (front ++ cs) (utf8 (front ++ cs)) (Size.utf8 front) depth =
      .ok (Css.scanFrom (Size.utf8 front) (.outside depth) .plain cs) := by
  have hbehind : AgreesBehind front cs := by
    rintro consumed rest rfl hne depth
    have hshorter : rest.length < (consumed ++ rest).length := by
      have := List.length_pos_iff.mpr hne
      rw [List.length_append]
      omega
    rw [← List.append_assoc]
    exact scanFrom_utf8 (front ++ consumed) rest depth
  cases hcover : behindOpaque? cs with
  | some rest => exact hbehind.at_opaque hcover depth
  | none =>
    cases cs with
    | nil =>
      rw [scanFrom, dif_neg (by simp)]
      rfl
    | cons c cs =>
      by_cases hrule : depth = 0 ∧ Css.startsRule (c :: cs) = true
      · obtain ⟨rfl, hstart⟩ := hrule
        obtain rfl := eq_at_of_startsRule hstart
        exact hbehind.at_rule hstart
      · exact hbehind.at_char hcover hrule
termination_by cs.length

/-- A walk over the bytes of a stylesheet does not slip, and finds what a reader of its characters
finds. -/
theorem scan_eq (text : List Char) : scan text = .ok (Css.scan text) :=
  scanFrom_utf8 [] text 0

end MediaQuery.Bytes
