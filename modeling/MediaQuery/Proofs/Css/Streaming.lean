import MediaQuery.Proofs.Css.Stylesheet

/-!
# Reading a stylesheet that is still coming in

The scanner looks ahead at one place: an at-sign starts a media rule only if the keyword and what
may follow it are there. More text can change what it finds there, but only at the end of the text
so far, where no block can be completed any more. What it has completed it therefore keeps, whatever
comment, string, keyword or block the text so far leaves open.

* `completed_blocks_stay` — the blocks of a text are the first blocks of every continuation of it
-/

namespace MediaQuery.Css

variable {phase : Phase} {shield : Shield} {position : Nat} {cs more : List Char}

/-- A text completes no more blocks than it has closing braces. -/
theorem length_scanFrom_le (position : Nat) (phase : Phase) (shield : Shield) (cs : List Char) :
    (scanFrom position phase shield cs).1.length ≤ cs.count '}' := by
  induction cs generalizing position phase shield with
  | nil => exact Nat.zero_le _
  | cons c cs ih =>
    have hcount : cs.count '}' ≤ (c :: cs).count '}' := List.count_le_count_cons
    rw [scanFrom]
    split
    · exact Nat.le_trans (ih ..) hcount
    · next next block hnext =>
      obtain rfl : c = '}' := by
        split at hnext
        · obtain ⟨-, -, -, -, hc, -⟩ := Phase.exists_of_step_eq_some hnext
          exact hc
        · cases hnext
      rw [List.count_cons_self]
      exact Nat.succ_le_succ (ih ..)

theorem scanFrom_eq_nil (h : '}' ∉ cs) : (scanFrom position phase shield cs).1 = [] := by
  have hle := length_scanFrom_le position phase shield cs
  rw [List.count_eq_zero_of_not_mem h] at hle
  exact List.eq_nil_of_length_eq_zero (Nat.le_zero.mp hle)

/-- A media rule that starts in a text only once the text goes on leaves no closing brace before
what follows: the text ends with its keyword or inside it. -/
theorem close_not_mem_of_startsRule_append (hnot : startsRule cs = false)
    (h : startsRule (cs ++ more) = true) : '}' ∉ cs := by
  intro hmem
  obtain ⟨word, after, heq, hword, hafter⟩ := startsRule_iff.mp h
  have hshort : '}' ∉ word := fun hin => Bool.noConfusion (endsItem_of_mem hword hin)
  rcases List.append_eq_append_iff.mp heq with ⟨rest, rfl, -⟩ | ⟨rest, rfl, hrest⟩
  · exact hshort (List.mem_append_left _ hmem)
  · cases rest with
    | nil => exact hshort (by simpa using hmem)
    | cons d rest =>
      obtain ⟨c, behind, rfl, hc⟩ := hafter
      obtain ⟨rfl, -⟩ := List.cons.inj hrest
      have hstarts := startsRule_iff.mpr ⟨word, c :: rest, rfl, hword, c, rest, rfl, hc⟩
      exact Bool.noConfusion (hnot.symm.trans hstarts)

/-- What follows a text changes a step of the scanner only where it makes an at-sign the start of a
media rule; there the text has no closing brace. -/
theorem step_append (phase : Phase) (position : Nat) (c : Char) (cs more : List Char) :
    phase.step position c (c :: cs ++ more) = phase.step position c (c :: cs) ∨ '}' ∉ c :: cs := by
  cases hnot : startsRule (c :: cs) with
  | true =>
    have hkept : startsRule (c :: cs ++ more) = true := by
      obtain ⟨word, after, heq, hword, d, behind, rfl, hd⟩ := startsRule_iff.mp hnot
      refine startsRule_iff.mpr ⟨word, d :: (behind ++ more), ?_, hword, d, _, rfl, hd⟩
      rw [heq, List.append_assoc, List.cons_append]
    left
    unfold Phase.step
    rw [hkept, hnot]
  | false =>
    cases h : startsRule (c :: cs ++ more) with
    | false =>
      left
      unfold Phase.step
      rw [h, hnot]
    | true => exact Or.inr (close_not_mem_of_startsRule_append hnot h)

/-- From any phase and state on, what follows a text leaves the blocks of the text as they are, and
adds no more blocks than it has closing braces. -/
theorem scanFrom_append (position : Nat) (phase : Phase) (shield : Shield)
    (cs more : List Char) :
    ∃ later, (scanFrom position phase shield (cs ++ more)).1 =
        (scanFrom position phase shield cs).1 ++ later ∧
      later.length ≤ more.count '}' := by
  induction cs generalizing position phase shield with
  | nil => exact ⟨_, rfl, length_scanFrom_le ..⟩
  | cons c cs ih =>
    rcases step_append phase position c cs more with hsame | hclose
    · rw [List.cons_append] at hsame ⊢
      rw [scanFrom, scanFrom, hsame]
      generalize (if shield.isBare then _ else _ : Phase × Option RawBlock) = next
      obtain ⟨next, completed⟩ := next
      obtain ⟨later, heq, hlength⟩ := ih (position + c.utf8Size) next (shield.step c)
      refine ⟨later, ?_, hlength⟩
      cases completed with
      | none => exact heq
      | some block => exact congrArg (block :: ·) heq
    · -- without a closing brace the text has no block yet, and all that come are later ones
      refine ⟨_, by rw [scanFrom_eq_nil hclose, List.nil_append], ?_⟩
      calc (scanFrom position phase shield (c :: cs ++ more)).1.length
          ≤ (c :: cs ++ more).count '}' := length_scanFrom_le ..
        _ = more.count '}' := by
          rw [List.count_append, List.count_eq_zero_of_not_mem hclose, Nat.zero_add]

/-- However a stylesheet goes on, and whatever comment, string, escape, keyword or block it leaves
open, its blocks stay the first blocks, in order and unchanged; and there come no more of them than
the rest has closing braces. -/
theorem completed_blocks_stay (text more : List Char) :
    mediaBlocks text <+: mediaBlocks (text ++ more) ∧
      (mediaBlocks (text ++ more)).length ≤ (mediaBlocks text).length + more.count '}' := by
  obtain ⟨later, heq, hlength⟩ := scanFrom_append 0 (.outside 0) .plain text more
  have hblocks : mediaBlocks (text ++ more) = mediaBlocks text ++ later := heq
  rw [hblocks, List.length_append]
  exact ⟨List.prefix_append .., Nat.add_le_add_left hlength _⟩

/-- A keyword that lacks what may follow it, and a block that lacks its closing brace. -/
example :
    mediaBlocks "@media a\x7b\x7d@media".toList = [⟨" a".toList, []⟩] ∧
      mediaBlocks "@media a\x7b\x7d@media(b)\x7bc".toList = [⟨" a".toList, []⟩] ∧
      mediaBlocks "@media a\x7b\x7d@media(b)\x7bc\x7d".toList =
        [⟨" a".toList, []⟩, ⟨"(b)".toList, "c".toList⟩] := by
  decide +kernel

end MediaQuery.Css
