import Mathlib.Algebra.Order.Field.Power
import Mathlib.Algebra.Order.Field.Rat
import Mathlib.Tactic.Linarith
import Mathlib.Tactic.Positivity
import Mathlib.Tactic.Ring

/-!
# Rounding to the nearest double

An exact value lies on a grid of doubles, and is rounded to the point of the grid that it is nearest
to; a tie goes to the even one. An operation on doubles knows its exact result only as a mantissa
with two residual bits, which is enough to round it.

* `roundWithAccuracy_eq` — what is known of a value finely enough is rounded as the value is
-/

namespace MediaQuery.Decimal

open Float.Model (Format UnpackedFloat totalExponent)
open Float.Model.UnpackedFloat

variable {em : ExtendedMantissa} {v y : Rat} {k m n : Nat} {e q t : Int} {accuracy : Accuracy}

/-! ## The nearest whole number -/

/-- A whole number that a value is nearest to; in the middle of two it is the even one. -/
structure IsNearest (n : Nat) (y : Rat) : Prop where
  low : 2 * (n : Rat) - 1 ≤ 2 * y
  high : 2 * y ≤ 2 * (n : Rat) + 1
  even : 2 * y = 2 * (n : Rat) - 1 ∨ 2 * y = 2 * (n : Rat) + 1 → n % 2 = 0

/-- Where a mantissa and its two residual bits say that a value lies: the round bit counts for a
half, and the sticky bit tells that there is more. -/
def Locates (em : ExtendedMantissa) (y : Rat) : Prop :=
  let low : Rat := 2 * em.mantissa + em.roundBit.toNat
  if em.stickyBit then low < 2 * y ∧ 2 * y < low + 1 else 2 * y = low

theorem locates_natCast (n : Nat) : Locates (.ofMantissaAndAccuracy n .exact) n := by
  simp [Locates, ExtendedMantissa.ofMantissaAndAccuracy]

theorem Locates.mantissa_le (h : Locates em y) : em.mantissa ≤ y := by
  obtain ⟨m, round, sticky⟩ := em
  cases round <;> cases sticky <;> simp [Locates] at h <;> linarith

theorem Locates.lt_mantissa (h : Locates em y) : y < em.mantissa + 1 := by
  obtain ⟨m, round, sticky⟩ := em
  cases round <;> cases sticky <;> simp [Locates] at h <;> linarith

/-- A shift turns the last bit of the mantissa into the round bit. -/
theorem Locates.shiftRightOne (h : Locates em y) : Locates em.shiftRightOne (y / 2) := by
  obtain ⟨m, round, sticky⟩ := em
  have hbit : (m % 2 != 0).toNat = m % 2 := by
    obtain heven | hodd := Nat.mod_two_eq_zero_or_one m <;> simp [*]
  have hm : 2 * ((m / 2 : Nat) : Rat) + (m % 2 : Nat) = m := by exact_mod_cast Nat.div_add_mod m 2
  simp only [Locates, ExtendedMantissa.shiftRightOne, hbit, hm]
  cases round <;> cases sticky <;> simp [Locates] at h ⊢
  · linarith
  · exact ⟨by linarith, by linarith⟩
  · exact ⟨by linarith, by linarith⟩
  · exact ⟨by linarith, by linarith⟩

theorem Locates.shiftRight (h : Locates em y) (n : Nat) : Locates (em >>> n) (y / 2 ^ n) := by
  change Locates (n.repeat ExtendedMantissa.shiftRightOne em) _
  induction n with
  | zero => simpa [Nat.repeat] using h
  | succ n ih =>
    rw [pow_succ, ← div_div]
    exact ih.shiftRightOne

/-- The mantissa is rounded to the nearest whole number. -/
theorem Locates.roundedMantissa_eq (h : Locates em y) (hnear : IsNearest n y) :
    em.roundedMantissa = n := by
  obtain ⟨m, round, sticky⟩ := em
  obtain ⟨hlow, hhigh, heven⟩ := hnear
  cases round <;> cases sticky <;> simp [Locates] at h
  · have hle : 2 * n ≤ 2 * m + 1 := by exact_mod_cast (by linarith : 2 * (n : Rat) ≤ 2 * m + 1)
    have hge : 2 * m ≤ 2 * n + 1 := by exact_mod_cast (by linarith : 2 * (m : Rat) ≤ 2 * n + 1)
    change m = n
    omega
  · have hle : n < m + 1 := by exact_mod_cast (by linarith : (n : Rat) < m + 1)
    have hge : 2 * m < 2 * n + 1 := by exact_mod_cast (by linarith : 2 * (m : Rat) < 2 * n + 1)
    change m = n
    omega
  · have hle : n ≤ m + 1 := by exact_mod_cast (by linarith : (n : Rat) ≤ m + 1)
    have hge : m ≤ n := by exact_mod_cast (by linarith : (m : Rat) ≤ n)
    -- the value lies halfway between two whole numbers, and the even one is taken
    have htie : n % 2 = 0 := heven <| by
      obtain rfl | rfl : n = m ∨ n = m + 1 := by omega
      · exact Or.inr h
      · refine Or.inl (h.trans ?_)
        push_cast
        ring
    change m + m % 2 = n
    omega
  · have hle : n < m + 2 := by exact_mod_cast (by linarith : (n : Rat) < m + 2)
    have hge : m < n := by exact_mod_cast (by linarith : (m : Rat) < n)
    change m + 1 = n
    omega

/-! ## The grid of a value -/

/-- The exponent of the grid of doubles around a value: they have 53 bits, unless the grid is the
finest of all. -/
structure IsQuantum (q : Int) (v : Rat) : Prop where
  le : -1074 ≤ q
  high : v < 2 ^ (q + 53)
  low : q = -1074 ∨ 2 ^ (q + 52) ≤ v

/-- A value is rounded to `m * 2 ^ e`, the nearest point of its grid. Rounding up may carry it to the
power of two where a wider grid begins. -/
inductive RoundsTo (v : Rat) : Nat → Int → Prop
  | near {m : Nat} {e : Int} (quantum : IsQuantum e v) (nearest : IsNearest m (v / 2 ^ e))
      (lt : m < 2 ^ 53) : RoundsTo v m e
  | carry {e : Int} (quantum : IsQuantum e v) (nearest : IsNearest (2 ^ 53) (v / 2 ^ e)) :
      RoundsTo v (2 ^ 52) (e + 1)

theorem lt_two_zpow (h : v / 2 ^ e < 2 ^ 53) : v < 2 ^ (e + 53) := by
  rw [add_comm, zpow_add₀ (by norm_num)]
  exact (div_lt_iff₀ (by positivity)).mp h

theorem two_zpow_le (h : 2 ^ 52 ≤ v / 2 ^ e) : 2 ^ (e + 52) ≤ v := by
  rw [add_comm, zpow_add₀ (by norm_num)]
  exact (le_div_iff₀ (by positivity)).mp h

/-- A scale that is fine enough to round a value on: it tells 53 bits of it, or lies below every
double. -/
def IsFine (t : Int) (v : Rat) : Prop :=
  t ≤ -1074 ∨ 2 ^ (t + 52) ≤ v

theorem lt_of_two_zpow_lt {a b : Int} (h : (2 : Rat) ^ a < 2 ^ b) : a < b :=
  (zpow_lt_zpow_iff_right₀ (by norm_num)).mp h

theorem IsFine.le (h : IsFine t v) (hq : IsQuantum q v) : t ≤ q := by
  obtain hle | hle := h
  · exact hle.trans hq.le
  · have hlt := lt_of_two_zpow_lt (hle.trans_lt hq.high)
    omega

/-- A number lies between two powers of two. -/
theorem two_zpow_log2_le (hk : 0 < k) (t : Int) : (2 : Rat) ^ (k.log2 + t) ≤ k * 2 ^ t := by
  rw [zpow_add₀ (by norm_num), zpow_natCast]
  have hle : (2 : Rat) ^ k.log2 ≤ k := by exact_mod_cast Nat.log2_self_le hk.ne'
  gcongr

theorem le_two_zpow_log2 (k : Nat) (t : Int) : ((k : Rat) + 1) * 2 ^ t ≤ 2 ^ (k.log2 + 1 + t) := by
  rw [zpow_add₀ (by norm_num)]
  have hlt : (k : Rat) + 1 ≤ 2 ^ (k.log2 + 1) := by exact_mod_cast Nat.lt_log2_self
  gcongr
  exact_mod_cast hlt

theorem targetExponent_eq (e : Int) :
    Format.binary64.targetExponent e = max (e - 53) (-1074) := rfl

/-- The exponent that a mantissa is shifted to is the one of the grid. -/
theorem Locates.targetExponent_eq (h : Locates em (v / 2 ^ t)) (hq : IsQuantum q v) (ht : t ≤ q) :
    Format.binary64.targetExponent (totalExponent em.mantissa t) = q := by
  have hpos : (0 : Rat) < 2 ^ t := by positivity
  have hlow : em.mantissa * 2 ^ t ≤ v := (le_div_iff₀ hpos).mp h.mantissa_le
  have hhigh : v < (em.mantissa + 1) * 2 ^ t := (div_lt_iff₀ hpos).mp h.lt_mantissa
  have hbelow : q = -1074 ∨ q + 52 < em.mantissa.log2 + 1 + t := hq.low.imp_right fun hle =>
    lt_of_two_zpow_lt (hle.trans_lt (hhigh.trans_le (le_two_zpow_log2 _ t)))
  have hle := hq.le
  rw [Decimal.targetExponent_eq, totalExponent]
  obtain hzero | hmantissa := Nat.eq_zero_or_pos em.mantissa
  · rw [hzero, Nat.log2_zero] at hbelow ⊢
    omega
  · have habove : em.mantissa.log2 + t < q + 53 :=
      lt_of_two_zpow_lt ((two_zpow_log2_le hmantissa t).trans_lt (hlow.trans_lt hq.high))
    omega

/-! ## Shifting to the grid -/

@[simp]
theorem mantissa_ofMantissaAndAccuracy (k : Nat) (accuracy : Accuracy) :
    (ExtendedMantissa.ofMantissaAndAccuracy k accuracy).mantissa = k := by
  obtain _ | ordering := accuracy
  · rfl
  · cases ordering <;> rfl

theorem shiftToExponent_eq (htq : t ≤ q) (k : Nat) (accuracy : Accuracy) :
    shiftToExponent k t accuracy q =
      (ExtendedMantissa.ofMantissaAndAccuracy k accuracy >>> (q - t).toNat, q) := by
  rw [shiftToExponent]
  congr 1
  omega

theorem shiftToExponent_of_le (hqt : q ≤ t) (k : Nat) (accuracy : Accuracy) :
    shiftToExponent k t accuracy q = (ExtendedMantissa.ofMantissaAndAccuracy k accuracy, t) := by
  have hzero : (q - t).toNat = 0 := by omega
  rw [shiftToExponent, hzero]
  simp only [Int.natCast_zero, Int.add_zero]
  rfl

/-- The first shift goes to the grid of the value. -/
theorem shiftToTargetExponent_eq (h : Locates (.ofMantissaAndAccuracy k accuracy) (v / 2 ^ t))
    (hq : IsQuantum q v) (htq : t ≤ q) :
    ∃ em, shiftToTargetExponent .binary64 k t accuracy = (em, q) ∧ Locates em (v / 2 ^ q) := by
  have htarget := h.targetExponent_eq hq htq
  rw [mantissa_ofMantissaAndAccuracy] at htarget
  refine ⟨ExtendedMantissa.ofMantissaAndAccuracy k accuracy >>> (q - t).toNat, ?_, ?_⟩
  · rw [shiftToTargetExponent, htarget, shiftToExponent_eq htq]
  · have hshift := h.shiftRight (q - t).toNat
    rwa [div_div, ← zpow_natCast, ← zpow_add₀ (by norm_num), Int.toNat_of_nonneg (by omega),
      add_sub_cancel] at hshift

/-- A mantissa that is not too wide stays as it is. -/
theorem shiftToTargetExponent_of_lt (hm : 0 < m) (hlt : m < 2 ^ 53) (hle : -1074 ≤ e) :
    shiftToTargetExponent .binary64 m e .exact = (⟨m, false, false⟩, e) := by
  have hlog : m.log2 < 53 := (Nat.log2_lt hm.ne').mpr hlt
  rw [shiftToTargetExponent, shiftToExponent_of_le]
  · rfl
  · rw [targetExponent_eq, totalExponent]
    omega

/-- A mantissa that has been rounded up to another bit is shifted once more. -/
theorem shiftToTargetExponent_carry (hle : -1074 ≤ e) :
    shiftToTargetExponent .binary64 (2 ^ 53) e .exact = (⟨2 ^ 52, false, false⟩, e + 1) := by
  have htarget : Format.binary64.targetExponent (totalExponent (2 ^ 53) e) = e + 1 := by
    rw [targetExponent_eq, totalExponent, Nat.log2_two_pow]
    omega
  have hone : (e + 1 - e).toNat = 1 := by omega
  rw [shiftToTargetExponent, htarget, shiftToExponent_eq (by omega), hone]
  rfl

/-- A value of which a mantissa tells enough is rounded to the double that is nearest to it. -/
theorem roundWithAccuracy_eq (h : Locates (.ofMantissaAndAccuracy k accuracy) (v / 2 ^ t))
    (hfine : IsFine t v) (hround : RoundsTo v m e) (hm : 0 < m) (sign : Sign) :
    roundWithAccuracy .binary64 sign k t accuracy = .finite sign m e hm := by
  cases hround with
  | near hq hnear hlt =>
    obtain ⟨em, hshift, hlocates⟩ := shiftToTargetExponent_eq h hq (hfine.le hq)
    unfold roundWithAccuracy
    rw [hshift]
    dsimp only
    rw [hlocates.roundedMantissa_eq hnear, shiftToTargetExponent_of_lt hm hlt hq.le]
    exact dif_neg hm.ne'
  | carry hq hnear =>
    obtain ⟨em, hshift, hlocates⟩ := shiftToTargetExponent_eq h hq (hfine.le hq)
    unfold roundWithAccuracy
    rw [hshift]
    dsimp only
    rw [hlocates.roundedMantissa_eq hnear, shiftToTargetExponent_carry hq.le]
    exact dif_neg hm.ne'

end MediaQuery.Decimal
