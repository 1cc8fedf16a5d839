import MediaQuery.Text.Ascii
import MediaQuery.Text.Blank

/-!
# Words in any letter case

A word is read whatever the case of its letters. What was read is a spelling of the word
(`dropWord?_eq_some_iff`), and only letters have more than one spelling.
-/

namespace MediaQuery

/-- What is true of every character of a fixed text is found out character by character; an instance
that goes through all characters there are would not come to an end. -/
theorem forall_mem_of_all {p : Char → Prop} [DecidablePred p] {cs : List Char}
    (h : (cs.all fun c => decide (p c)) = true) : ∀ c ∈ cs, p c :=
  fun c hc => of_decide_eq_true (List.all_eq_true.mp h c hc)

end MediaQuery

namespace MediaQuery.Ascii

variable {c d : Char}

theorem isUpper_iff (c : Char) : c.isUpper = true ↔ 65 ≤ c.toNat ∧ c.toNat ≤ 90 := by
  change decide (c.val ≥ 'A'.val ∧ c.val ≤ 'Z'.val) = true ↔ _
  rw [decide_eq_true_iff, ge_iff_le, UInt32.le_iff_toNat_le, UInt32.le_iff_toNat_le]
  rfl

theorem isLower_iff (c : Char) : c.isLower = true ↔ 97 ≤ c.toNat ∧ c.toNat ≤ 122 := by
  change (decide (c.val ≥ 'a'.val) && decide (c.val ≤ 'z'.val)) = true ↔ _
  rw [Bool.and_eq_true, decide_eq_true_iff, decide_eq_true_iff, ge_iff_le, UInt32.le_iff_toNat_le,
    UInt32.le_iff_toNat_le]
  rfl

theorem isAlpha_eq (c : Char) : c.isAlpha = (c.isUpper || c.isLower) := rfl

theorem toLower_of_not_isUpper (h : c.isUpper = false) : c.toLower = c := by
  unfold Char.toLower
  exact dif_neg (of_decide_eq_false h)

theorem toNat_toLower (h : c.isUpper = true) : c.toLower.toNat = c.toNat + 32 := by
  have hbounds : 65 ≤ c.val.toNat ∧ c.val.toNat ≤ 90 := (isUpper_iff c).mp h
  unfold Char.toLower
  rw [dif_pos (of_decide_eq_true h)]
  change (c.val + ('a'.val - 'A'.val)).toNat = c.val.toNat + 32
  have hgap : ('a'.val - 'A'.val).toNat = 32 := rfl
  rw [UInt32.toNat_add]
  omega

/-- What is no letter has one spelling. -/
theorem eq_of_toLower_eq (h : c.toLower = d) (hd : d.isLower = false) : c = d := by
  by_cases hc : c.isUpper = true
  · have hbounds := (isUpper_iff c).mp hc
    have hlower : d.isLower = true := by
      rw [isLower_iff, ← h, toNat_toLower hc]
      omega
    rw [hlower] at hd
    exact Bool.noConfusion hd
  · rwa [toLower_of_not_isUpper (Bool.eq_false_iff.mpr hc)] at h

/-- White space has no letter case. -/
theorem toLower_of_isBlank (h : Blank.isBlank c = true) : c.toLower = c := by
  apply toLower_of_not_isUpper
  rw [Bool.eq_false_iff]
  intro hc
  have hbounds := (isUpper_iff c).mp hc
  simp only [Blank.isBlank, Bool.or_eq_true, Bool.and_eq_true, decide_eq_true_eq, beq_iff_eq] at h
  omega

/-- What is left behind a word is what follows some spelling of it. -/
theorem dropWord?_eq_some_iff {word cs rest : List Char} :
    dropWord? word cs = some rest ↔
      ∃ spelled, cs = spelled ++ rest ∧ sameLetters spelled word = true := by
  induction word generalizing cs with
  | nil =>
    constructor
    · intro h
      exact ⟨[], Option.some.inj h, rfl⟩
    · rintro ⟨spelled, rfl, h⟩
      have hnil : spelled = [] := by simpa [sameLetters, lower] using h
      rw [hnil]
      rfl
  | cons w word ih =>
    constructor
    · intro h
      cases cs with
      | nil => exact absurd h (by simp [dropWord?])
      | cons c cs =>
        rw [dropWord?] at h
        split at h
        · next hwc =>
          obtain ⟨spelled, rfl, hs⟩ := ih.mp h
          refine ⟨c :: spelled, rfl, ?_⟩
          simp only [sameLetters, lower, List.map_cons, beq_iff_eq] at hs hwc ⊢
          rw [hs, hwc]
        · exact absurd h (by simp)
    · rintro ⟨spelled, rfl, h⟩
      cases spelled with
      | nil => exact absurd h (by simp [sameLetters, lower])
      | cons c spelled =>
        simp only [sameLetters, lower, List.map_cons, beq_iff_eq, List.cons.injEq] at h
        rw [List.cons_append, dropWord?, if_pos (by simp [h.1])]
        exact ih.mpr ⟨spelled, rfl, by simp [sameLetters, lower, h.2]⟩

end MediaQuery.Ascii
