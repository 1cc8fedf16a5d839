import MediaQuery.Proofs.Decimal.Nearest
import Mathlib.Tactic.FieldSimp

/-!
# Products and quotients of doubles

A product and a quotient are rounded to the double that is nearest to their exact value, and a whole
number of at most 53 bits is exact. What the operands are worth counts alone: not how they are
written as a mantissa and an exponent.

* `mul_eq`, `div_eq` — a result is what its exact value is rounded to
-/

namespace MediaQuery.Decimal

open Float.Model (Format UnpackedFloat totalExponent)
open Float.Model.UnpackedFloat

variable {d k m m₁ m₂ : Nat} {e e₁ e₂ t : Int} {sign₁ sign₂ : Sign}

/-! ## Exact values -/

theorem mul_two_zpow_div (m : Nat) (e : Int) : (m : Rat) * 2 ^ e / 2 ^ e = m :=
  mul_div_cancel_right₀ _ (by positivity)

theorem roundsTo_self (hlow : 2 ^ 52 ≤ m) (hlt : m < 2 ^ 53) (he : -1074 ≤ e) :
    RoundsTo (m * 2 ^ e) m e := by
  refine .near ⟨he, lt_two_zpow ?_, Or.inr (two_zpow_le ?_)⟩ ?_ hlt <;> rw [mul_two_zpow_div]
  · exact_mod_cast hlt
  · exact_mod_cast hlow
  · exact ⟨by linarith, by linarith, fun h => by rcases h with h | h <;> linarith⟩

/-- An exact value that has 53 bits is rounded to the double that is nearest to it. -/
theorem roundWithAccuracy_exact (hk : 2 ^ 52 ≤ k) (hround : RoundsTo (k * 2 ^ t) m e) (hm : 0 < m)
    (sign : Sign) : roundWithAccuracy .binary64 sign k t .exact = .finite sign m e hm := by
  refine roundWithAccuracy_eq ?_ (Or.inr (two_zpow_le ?_)) hround hm sign <;> rw [mul_two_zpow_div]
  · exact locates_natCast k
  · exact_mod_cast hk

/-- A product is rounded from its exact value. -/
theorem mul_eq (hm₁ : 0 < m₁) (hm₂ : 0 < m₂) (hwide : 2 ^ 52 ≤ m₁ * m₂)
    (hround : RoundsTo (m₁ * 2 ^ e₁ * (m₂ * 2 ^ e₂)) m e) (hm : 0 < m) :
    mul .binary64 (.finite sign₁ m₁ e₁ hm₁) (.finite sign₂ m₂ e₂ hm₂) =
      .finite (sign₁ * sign₂) m e hm := by
  change roundWithAccuracy .binary64 (sign₁ * sign₂) (m₁ * m₂) (e₁ + e₂) .exact = _
  refine roundWithAccuracy_exact hwide ?_ hm _
  rw [zpow_add₀ (by norm_num)]
  push_cast
  convert hround using 1
  ring

/-! ## Whole numbers -/

theorem normalize_natCast (hd : 0 < d) (e : Int) (sign : Sign) :
    UnpackedFloat.normalize .binary64 d e sign = UnpackedFloat.round .binary64 .positive d e := by
  have hcompare : compare (d : Int) 0 = .gt := Int.compare_eq_gt.mpr (by omega)
  rw [UnpackedFloat.normalize, hcompare]
  rfl

/-- A whole number of at most 53 bits is a double. -/
theorem exists_ofNat_eq (hd : 0 < d) (hlt : d < 2 ^ 53) :
    ∃ (m : Nat) (e : Int) (hm : 0 < m), ofNat .binary64 d = .finite .positive m e hm ∧
      (m : Rat) * 2 ^ e = d ∧ 2 ^ 52 ≤ m ∧ m < 2 ^ 53 ∧ -52 ≤ e ∧ e ≤ 0 := by
  have hlog : d.log2 < 53 := (Nat.log2_lt hd.ne').mpr hlt
  let shift := 52 - d.log2
  have htarget : Format.binary64.targetExponent (totalExponent d 0) = -(shift : Int) := by
    rw [targetExponent_eq, totalExponent]
    omega
  have hlow : 2 ^ 52 ≤ d * 2 ^ shift := by
    calc 2 ^ 52 = 2 ^ d.log2 * 2 ^ shift := by rw [← pow_add]; congr 1; omega
      _ ≤ d * 2 ^ shift := Nat.mul_le_mul_right _ (Nat.log2_self_le hd.ne')
  have hhigh : d * 2 ^ shift < 2 ^ 53 := by
    calc d * 2 ^ shift < 2 ^ (d.log2 + 1) * 2 ^ shift :=
          Nat.mul_lt_mul_of_pos_right Nat.lt_log2_self (by positivity)
      _ = 2 ^ 53 := by rw [← pow_add]; congr 1; omega
  refine ⟨d * 2 ^ shift, -shift, by omega, ?_, ?_, hlow, hhigh, by omega, by omega⟩
  · have hself := roundsTo_self (e := -shift) hlow hhigh (by omega)
    have hshift : decreaseExponent d 0 (-(shift : Int)) = (d * 2 ^ shift, -(shift : Int)) := by
      simp only [decreaseExponent, Nat.shiftLeft_eq, zero_sub, neg_neg, Int.toNat_natCast]
    rw [ofNat, ofInt, normalize_natCast hd, UnpackedFloat.round, htarget, hshift]
    exact roundWithAccuracy_exact hlow hself (by omega) _
  · rw [Nat.cast_mul, mul_assoc, zpow_neg, zpow_natCast]
    push_cast
    exact (congrArg _ (mul_inv_cancel₀ (by positivity))).trans (mul_one _)

/-! ## Quotients -/

/-- The remainder of a division tells where the quotient lies. -/
theorem locates_div (hm₂ : 0 < m₂) (n : Nat) :
    Locates (.ofMantissaAndAccuracy (n / m₂) (accuracyOfFraction (n % m₂) m₂)) (n / m₂) := by
  have hpos : (0 : Rat) < m₂ := by exact_mod_cast hm₂
  have hdiv : (m₂ * (n / m₂ : Nat) + (n % m₂ : Nat) : Rat) = n := by
    exact_mod_cast Nat.div_add_mod n m₂
  -- the last term decides about the two bits: whether it is zero, and how it compares with one
  have hn : 2 * ((n : Rat) / m₂) = 2 * (n / m₂ : Nat) + 2 * (n % m₂ : Nat) / m₂ := by
    rw [← hdiv]
    field_simp
  have hlt : 2 * ((n % m₂ : Nat) : Rat) / m₂ < 2 := by
    rw [div_lt_iff₀ hpos]
    exact_mod_cast Nat.mul_lt_mul_of_pos_left (Nat.mod_lt n hm₂) two_pos
  rw [accuracyOfFraction]
  split
  · rename_i hzero
    rw [hzero] at hn
    simpa [Locates, ExtendedMantissa.ofMantissaAndAccuracy] using hn
  · rename_i hne
    have hrest : (0 : Rat) < 2 * (n % m₂ : Nat) / m₂ := by
      have hpos' : (0 : Rat) < (n % m₂ : Nat) := by exact_mod_cast Nat.pos_of_ne_zero hne
      positivity
    cases hcompare : compare (2 * (n % m₂)) m₂ with
    | lt =>
      have hhalf : 2 * ((n % m₂ : Nat) : Rat) / m₂ < 1 := by
        rw [div_lt_one hpos]
        exact_mod_cast Nat.compare_eq_lt.mp hcompare
      simp only [Locates, ExtendedMantissa.ofMantissaAndAccuracy, hn, if_true, Bool.toNat_false,
        Nat.cast_zero]
      exact ⟨by linarith, by linarith⟩
    | eq =>
      have hhalf : 2 * ((n % m₂ : Nat) : Rat) / m₂ = 1 := by
        rw [div_eq_one_iff_eq hpos.ne']
        exact_mod_cast Nat.compare_eq_eq.mp hcompare
      simp [Locates, ExtendedMantissa.ofMantissaAndAccuracy, hn, hhalf]
    | gt =>
      have hhalf : 1 < 2 * ((n % m₂ : Nat) : Rat) / m₂ := by
        rw [one_lt_div hpos]
        exact_mod_cast Nat.compare_eq_gt.mp hcompare
      simp only [Locates, ExtendedMantissa.ofMantissaAndAccuracy, hn, if_true, Bool.toNat_true,
        Nat.cast_one]
      exact ⟨by linarith, by linarith⟩

/-- A quotient is divided out on a scale that is fine enough. -/
theorem isFine_quotient (hm₁ : 0 < m₁) (hm₂ : 0 < m₂)
    (ht : t ≤ Format.binary64.targetExponent (totalExponent m₁ e₁ - totalExponent m₂ e₂)) :
    IsFine t (m₁ * 2 ^ e₁ / (m₂ * 2 ^ e₂)) := by
  rw [targetExponent_eq, totalExponent, totalExponent] at ht
  by_cases hle : t ≤ -1074
  · exact Or.inl hle
  · right
    have hpos : (0 : Rat) < m₂ * 2 ^ e₂ := by
      have hpos' : (0 : Rat) < m₂ := by exact_mod_cast hm₂
      positivity
    have hhigh : (m₂ : Rat) * 2 ^ e₂ ≤ 2 ^ (m₂.log2 + 1 + e₂) := by
      refine le_trans ?_ (le_two_zpow_log2 m₂ e₂)
      gcongr
      linarith
    calc (2 : Rat) ^ (t + 52) ≤ 2 ^ (m₁.log2 + e₁ - (m₂.log2 + 1 + e₂)) :=
          zpow_le_zpow_right₀ (by norm_num) (by omega)
      _ = 2 ^ (m₁.log2 + e₁) / 2 ^ (m₂.log2 + 1 + e₂) := zpow_sub₀ (by norm_num) _ _
      _ ≤ m₁ * 2 ^ e₁ / (m₂ * 2 ^ e₂) := by
          gcongr
          exact two_zpow_log2_le hm₁ e₁

/-- A quotient is rounded from its exact value. -/
theorem div_eq (hm₁ : 0 < m₁) (hm₂ : 0 < m₂)
    (hround : RoundsTo (m₁ * 2 ^ e₁ / (m₂ * 2 ^ e₂)) m e) (hm : 0 < m) :
    div .binary64 (.finite sign₁ m₁ e₁ hm₁) (.finite sign₂ m₂ e₂ hm₂) =
      .finite (sign₁ / sign₂) m e hm := by
  let scale := min (e₁ - e₂)
    (Format.binary64.targetExponent (totalExponent m₁ e₁ - totalExponent m₂ e₂))
  let shifted := m₁ <<< (e₁ - e₂ - scale).toNat
  have hscale : (m₁ : Rat) * 2 ^ e₁ / (m₂ * 2 ^ e₂) / 2 ^ scale = shifted / m₂ := by
    have hnonneg : 0 ≤ e₁ - e₂ - scale := by omega
    have hshifted : shifted = m₁ * 2 ^ (e₁ - e₂ - scale).toNat := Nat.shiftLeft_eq ..
    rw [hshifted, Nat.cast_mul, Nat.cast_pow, Nat.cast_ofNat, ← zpow_natCast,
      Int.toNat_of_nonneg hnonneg, zpow_sub₀ (by norm_num), zpow_sub₀ (by norm_num)]
    field_simp
  change roundWithAccuracy .binary64 (sign₁ / sign₂) (shifted / m₂) scale
    (accuracyOfFraction (shifted % m₂) m₂) = _
  refine roundWithAccuracy_eq ?_ (isFine_quotient hm₁ hm₂ (min_le_right _ _)) hround hm _
  rw [hscale]
  exact locates_div hm₂ _

end MediaQuery.Decimal
