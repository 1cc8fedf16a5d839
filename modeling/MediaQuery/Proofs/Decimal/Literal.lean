import MediaQuery.Proofs.Decimal.Bits
import MediaQuery.Proofs.Decimal.Operations

/-!
# Decimal literals

A decimal literal is the double that is nearest to what it says. A short one is multiplied or
divided out in doubles, and nothing is lost before the last step since both operands are exact; a
long one is worked out in whole numbers.

* `ofScientific_whole`, `ofScientific_places` — a literal is the double that its value is rounded to
-/

namespace MediaQuery.Decimal

open Float.Model (Format UnpackedFloat)
open Float.Model.UnpackedFloat

variable {d m n : Nat} {e : Int} {v : Rat}

/-! ## The least value that is not rounded to zero -/

theorem IsNearest.half_le {y : Rat} (h : IsNearest m y) (hm : 0 < m) : 1 / 2 ≤ y := by
  have hone : (1 : Rat) ≤ m := by exact_mod_cast hm
  linarith [h.low]

/-- What is not rounded to zero is at least half of the least double. -/
theorem RoundsTo.le (h : RoundsTo v m e) (hm : 0 < m) : 2 ^ (-1075 : Int) ≤ v := by
  have hle : ∀ q : Int, -1074 ≤ q → 1 / 2 ≤ v / 2 ^ q → 2 ^ (-1075 : Int) ≤ v := by
    intro q hq hhalf
    have hpos : (0 : Rat) < 2 ^ q := by positivity
    calc (2 : Rat) ^ (-1075 : Int) = 2 ^ (-1 : Int) * 2 ^ (-1074 : Int) :=
          zpow_add₀ (by norm_num) (-1) (-1074)
      _ = 1 / 2 * 2 ^ (-1074 : Int) := by rw [zpow_neg_one, one_div]
      _ ≤ 1 / 2 * 2 ^ q := by gcongr; norm_num
      _ ≤ v := (le_div_iff₀ hpos).mp hhalf
  cases h with
  | near hq hnear => exact hle _ hq.le (hnear.half_le hm)
  | carry hq hnear => exact hle _ hq.le (hnear.half_le (by norm_num))

theorem RoundsTo.pos (h : RoundsTo v m e) (hm : 0 < m) : 0 < v :=
  lt_of_lt_of_le (by positivity) (h.le hm)

/-! ## Exact operands -/

/-- A number of at most 53 bits is exact as a double. -/
theorem exists_unpack_toFloat (hd : 0 < d) (hlt : d < 2 ^ 53) :
    ∃ (m : Nat) (e : Int) (hm : 0 < m),
      d.toUInt64.toFloat.toModel.unpack = .finite .positive m e hm ∧
        (m : Rat) * 2 ^ e = d ∧ 2 ^ 52 ≤ m := by
  obtain ⟨m, e, hm, heq, hvalue, hfull, hlt', hlow, hhigh⟩ := exists_ofNat_eq hd hlt
  refine ⟨m, e, hm, ?_, hvalue, hfull⟩
  have hto : d.toUInt64.toNat = d := Nat.mod_eq_of_lt (by omega)
  have hcanonical : IsCanonical m e := ⟨hlt', by omega, by omega, Or.inr hfull⟩
  change unpack .binary64 (pack .binary64 (ofNat .binary64 d.toUInt64.toNat)) = _
  rw [hto, heq, unpack_pack hcanonical hfull]

/-- Whether a double is a power of ten. -/
def isPowerOfTen (n : Nat) (x : Float) : Bool :=
  match x.toModel.unpack with
  | .finite .positive m e _ => m * 2 ^ e.toNat == 10 ^ n * 2 ^ (-e).toNat
  | _ => false

/-- The powers of ten that a short literal is multiplied or divided by are exact. -/
theorem isPowerOfTen_exactlyRepresentable : ∀ i : Fin Float.exactlyRepresentablePowersOfTen.size,
    isPowerOfTen i Float.exactlyRepresentablePowersOfTen[i] = true := by
  decide +kernel

theorem exists_unpack_of_isPowerOfTen {x : Float} (h : isPowerOfTen n x = true) :
    ∃ (m : Nat) (e : Int) (hm : 0 < m),
      x.toModel.unpack = .finite .positive m e hm ∧ (m : Rat) * 2 ^ e = 10 ^ n := by
  unfold isPowerOfTen at h
  cases hunpack : x.toModel.unpack with
  | finite sign m e hm =>
    rw [hunpack] at h
    cases sign with
    | negative => exact absurd h Bool.false_ne_true
    | positive =>
      refine ⟨m, e, hm, rfl, ?_⟩
      have hscaled : (m * 2 ^ e.toNat == 10 ^ n * 2 ^ (-e).toNat) = true := h
      have hvalue : (m : Rat) * 2 ^ e.toNat = 10 ^ n * 2 ^ (-e).toNat := by
        exact_mod_cast beq_iff_eq.mp hscaled
      have hexponent : e = (e.toNat : Int) - ((-e).toNat : Int) := by omega
      rw [hexponent, zpow_sub₀ (by norm_num), zpow_natCast, zpow_natCast, mul_div_assoc', hvalue]
      exact mul_div_cancel_right₀ _ (by positivity)
  | _ =>
    rw [hunpack] at h
    exact absurd h Bool.false_ne_true

/-! ## Short literals -/

theorem div_eq_ofModel {x y : Float} {m₁ m₂ : Nat} {e₁ e₂ : Int} {hm₁ : 0 < m₁} {hm₂ : 0 < m₂}
    (hx : x.toModel.unpack = .finite .positive m₁ e₁ hm₁)
    (hy : y.toModel.unpack = .finite .positive m₂ e₂ hm₂)
    (hround : RoundsTo (m₁ * 2 ^ e₁ / (m₂ * 2 ^ e₂)) m e) (hm : 0 < m) :
    x / y = .ofModel (.pack (.finite .positive m e hm)) := by
  change Float.ofModel (.pack (div .binary64 x.toModel.unpack y.toModel.unpack)) = _
  rw [hx, hy, div_eq hm₁ hm₂ hround hm]
  rfl

theorem mul_eq_ofModel {x y : Float} {m₁ m₂ : Nat} {e₁ e₂ : Int} {hm₁ : 0 < m₁} {hm₂ : 0 < m₂}
    (hx : x.toModel.unpack = .finite .positive m₁ e₁ hm₁)
    (hy : y.toModel.unpack = .finite .positive m₂ e₂ hm₂) (hwide : 2 ^ 52 ≤ m₁ * m₂)
    (hround : RoundsTo (m₁ * 2 ^ e₁ * (m₂ * 2 ^ e₂)) m e) (hm : 0 < m) :
    x * y = .ofModel (.pack (.finite .positive m e hm)) := by
  change Float.ofModel (.pack (mul .binary64 x.toModel.unpack y.toModel.unpack)) = _
  rw [hx, hy, mul_eq hm₁ hm₂ hwide hround hm]
  rfl

theorem ofScientific_short (hd : 0 < d) (hlt : d < 2 ^ 53) (hn : n ≤ 22)
    (hround : RoundsTo (d / 10 ^ n) m e) (hm : 0 < m) :
    Float.ofScientific d true n = .ofModel (.pack (.finite .positive m e hm)) := by
  obtain ⟨m₁, e₁, hm₁, hunpack₁, hvalue₁, -⟩ := exists_unpack_toFloat hd hlt
  obtain ⟨m₂, e₂, hm₂, hunpack₂, hvalue₂⟩ := exists_unpack_of_isPowerOfTen
    (isPowerOfTen_exactlyRepresentable ⟨n, Nat.lt_succ_of_le hn⟩)
  rw [Float.ofScientific, dif_pos ⟨hlt, hn⟩, if_pos rfl]
  refine div_eq_ofModel hunpack₁ hunpack₂ ?_ hm
  rwa [hvalue₁, hvalue₂]

theorem ofScientific_short_whole (hd : 0 < d) (hlt : d < 2 ^ 53) (hround : RoundsTo d m e)
    (hm : 0 < m) :
    Float.ofScientific d false 0 = .ofModel (.pack (.finite .positive m e hm)) := by
  obtain ⟨m₁, e₁, hm₁, hunpack₁, hvalue₁, hfull⟩ := exists_unpack_toFloat hd hlt
  obtain ⟨m₂, e₂, hm₂, hunpack₂, hvalue₂⟩ := exists_unpack_of_isPowerOfTen
    (isPowerOfTen_exactlyRepresentable ⟨0, by decide⟩)
  rw [Float.ofScientific, dif_pos ⟨hlt, by omega⟩, if_neg Bool.false_ne_true]
  refine mul_eq_ofModel hunpack₁ hunpack₂ (hfull.trans (Nat.le_mul_of_pos_right _ hm₂)) ?_ hm
  rwa [hvalue₁, hvalue₂, pow_zero, mul_one]

/-! ## Long literals -/

/-- A literal with more places than this is rounded to zero. -/
theorem places_le (hround : RoundsTo (d / 10 ^ n) m e) (hm : 0 < m) : n ≤ d.log2 + 1075 := by
  have hpos : (0 : Rat) < 10 ^ n := by positivity
  have hlow : (2 : Rat) ^ (-1075 : Int) * 10 ^ n ≤ d := (le_div_iff₀ hpos).mp (hround.le hm)
  have hhigh : (d : Rat) < 2 ^ (d.log2 + 1) := by exact_mod_cast Nat.lt_log2_self
  have hten : (2 : Rat) ^ n ≤ 10 ^ n := by gcongr; norm_num
  have hlt : (2 : Rat) ^ (-1075 + n : Int) < 2 ^ (d.log2 + 1 : Int) := by
    calc (2 : Rat) ^ (-1075 + n : Int) = 2 ^ (-1075 : Int) * 2 ^ n := by
          rw [zpow_add₀ (by norm_num), zpow_natCast]
      _ ≤ 2 ^ (-1075 : Int) * 10 ^ n := by gcongr
      _ < 2 ^ (d.log2 + 1 : Int) := by exact_mod_cast hlow.trans_lt hhigh
  have hlt' := lt_of_two_zpow_lt hlt
  omega

theorem ofScientific_neg (hd : 0 < d) (hn : 0 < n) (hle : n ≤ d.log2 + 1075) :
    ofScientific .binary64 d (-(n : Int)) =
      div .binary64 (.finite .positive d 0 hd)
        (.finite .positive (10 ^ n) 0 (Nat.pow_pos (by decide))) := by
  have hbits : (2 : Int) ^ Format.binary64.exponentBits = 2048 := rfl
  have hplaces : (-(-(n : Int))).toNat = n := by rw [neg_neg, Int.toNat_natCast]
  unfold ofScientific
  rw [dif_neg hd.ne', if_neg (by omega), if_neg (by omega), if_neg (by omega)]
  exact congrArg _ ((UnpackedFloat.finite.injEq ..).mpr ⟨rfl, by rw [hplaces], rfl⟩)

theorem ofScientific_zero (hd : 0 < d) :
    ofScientific .binary64 d 0 =
      mul .binary64 (.finite .positive (d <<< 53) (-53) (by simpa [Nat.pos_iff_ne_zero] using hd.ne'))
        (.finite .positive 1 0 Nat.one_pos) := by
  have hbits : (2 : Int) ^ Format.binary64.exponentBits = 2048 := rfl
  unfold ofScientific
  rw [dif_neg hd.ne', if_neg (by omega), if_neg (by omega), if_pos le_rfl]
  rfl

theorem ofScientific_long (hlong : ¬ (d < 2 ^ 53 ∧ n ≤ 22)) (hd : 0 < d) (hn : 0 < n)
    (hround : RoundsTo (d / 10 ^ n) m e) (hm : 0 < m) :
    Float.ofScientific d true n = .ofModel (.pack (.finite .positive m e hm)) := by
  rw [Float.ofScientific, dif_neg hlong]
  change Float.ofModel (.pack (ofScientific .binary64 d (Int.negOfNat n))) = _
  rw [Int.negOfNat_eq, Int.ofNat_eq_natCast, ofScientific_neg hd hn (places_le hround hm),
    div_eq hd (by positivity) ?_ hm]
  · rfl
  · simpa using hround

theorem ofScientific_long_whole (hlong : ¬ (d < 2 ^ 53 ∧ 0 ≤ 22)) (hd : 0 < d)
    (hround : RoundsTo d m e) (hm : 0 < m) :
    Float.ofScientific d false 0 = .ofModel (.pack (.finite .positive m e hm)) := by
  rw [Float.ofScientific, dif_neg hlong]
  change Float.ofModel (.pack (ofScientific .binary64 d 0)) = _
  have hvalue : ((d <<< 53 : Nat) : Rat) * 2 ^ (-53 : Int) = d := by
    rw [Nat.shiftLeft_eq, Nat.cast_mul, mul_assoc]
    norm_num
  rw [ofScientific_zero hd, mul_eq _ _ ?_ ?_ hm]
  · rfl
  · rw [Nat.shiftLeft_eq]
    omega
  · rwa [Nat.cast_one, zpow_zero, mul_one, mul_one, hvalue]

/-! ## All literals -/

/-- A literal with places is the double that its value is rounded to. -/
theorem ofScientific_places (hn : 0 < n) (hround : RoundsTo (d / 10 ^ n) m e) (hm : 0 < m) :
    Float.ofScientific d true n = .ofModel (.pack (.finite .positive m e hm)) := by
  have hpos := hround.pos hm
  have hd : 0 < d := Nat.pos_of_ne_zero fun hzero => by simp [hzero] at hpos
  by_cases hshort : d < 2 ^ 53 ∧ n ≤ 22
  · exact ofScientific_short hd hshort.1 hshort.2 hround hm
  · exact ofScientific_long hshort hd hn hround hm

/-- A whole literal is the double that its value is rounded to. -/
theorem ofScientific_whole (hround : RoundsTo d m e) (hm : 0 < m) :
    Float.ofScientific d false 0 = .ofModel (.pack (.finite .positive m e hm)) := by
  have hd : 0 < d := by exact_mod_cast hround.pos hm
  by_cases hshort : d < 2 ^ 53 ∧ 0 ≤ 22
  · exact ofScientific_short_whole hd hshort.1 hround hm
  · exact ofScientific_long_whole hshort hd hround hm

end MediaQuery.Decimal
