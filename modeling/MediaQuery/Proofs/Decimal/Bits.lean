import MediaQuery.Decimal.Shortest
import Mathlib.Algebra.Ring.Nat

/-!
# The bits of a double

A double is given by its bits, and the mantissa and the exponent that its bits hold make up the
double. The bits of the doubles without a sign are the numbers that count them from zero upwards, so
that a double is told by its mantissa and its exponent.

* `eq_ofModel_pack` — a finite double is packed from its parts
* `unpack_pack` — a full mantissa and its exponent are unpacked again
-/

namespace MediaQuery.Decimal

open Float.Model (Format UnpackedFloat)
open Float.Model.UnpackedFloat

variable {m : Nat} {e : Int} {x : Float}

/-! ## Packing -/

/-- A mantissa and an exponent that a double has: 53 bits, or fewer with the least exponent. -/
structure IsCanonical (m : Nat) (e : Int) : Prop where
  lt : m < 2 ^ 53
  le : -1074 ≤ e
  high : e ≤ 971
  full : e = -1074 ∨ 2 ^ 52 ≤ m

theorem toNat_packComponents (exponent : BitVec 11) (mantissa : BitVec 52) :
    (packComponents .binary64 .positive exponent mantissa).toNat =
      exponent.toNat * 2 ^ 52 + mantissa.toNat := by
  rw [packComponents, BitVec.toNat_append, BitVec.toNat_append, Sign.toBitVec,
    ← Nat.shiftLeft_add_eq_or_of_lt mantissa.isLt, Nat.shiftLeft_eq]
  simp

theorem pack_finite (sign : Sign) (m : Nat) (e : Int) (hm : 0 < m) :
    pack .binary64 (.finite sign m e hm) =
      if 2 ^ 11 ≤ (e + 1023 + 52).toNat + 1 then packedInfinity .binary64 sign
      else if m.log2 + 1 = 53 then
        packComponents .binary64 sign (BitVec.ofNat 11 (e + 1023 + 52).toNat) (BitVec.ofNat 52 m)
      else packComponents .binary64 sign 0#11 (BitVec.ofNat 52 m) := rfl

theorem log2_of_full (hfull : 2 ^ 52 ≤ m) (hlt : m < 2 ^ 53) : m.log2 = 52 :=
  (Nat.log2_eq_iff (by omega)).mpr ⟨hfull, hlt⟩

/-- The bits of a double count up through its mantissas and then its exponents. -/
theorem toNat_pack (h : IsCanonical m e) (hm : 0 < m) :
    (pack .binary64 (.finite .positive m e hm)).toNat = (e + 1074).toNat * 2 ^ 52 + m := by
  obtain ⟨hlt, hle, hhigh, hfull⟩ := h
  rw [pack_finite, if_neg (by omega)]
  split
  · rename_i hlog
    have hfull' : 2 ^ 52 ≤ m := (Nat.le_log2 (by omega)).mp (by omega)
    rw [toNat_packComponents, BitVec.toNat_ofNat, BitVec.toNat_ofNat]
    omega
  · rename_i hlog
    have hnotfull : ¬ 2 ^ 52 ≤ m := fun hfull' => hlog (by rw [log2_of_full hfull' hlt])
    rw [toNat_packComponents, BitVec.toNat_zero, BitVec.toNat_ofNat]
    omega

/-! ## Unpacking -/

theorem toNat_unpackMantissa (b : BitVec 64) :
    (@unpackMantissa .binary64 b).toNat = b.toNat % 2 ^ 52 := by
  simp [unpackMantissa, BitVec.extractLsb]

theorem toNat_unpackExponent (b : BitVec 64) :
    (@unpackExponent .binary64 b).toNat = b.toNat / 2 ^ 52 % 2 ^ 11 := by
  simp [unpackExponent, BitVec.extractLsb, Nat.shiftRight_eq_div_pow]

theorem toNat_unpackSign (b : BitVec 64) :
    (@unpackSign .binary64 b).toNat = b.toNat / 2 ^ 63 := by
  have hlt : b.toNat < 2 ^ 64 := b.isLt
  change (b.extractLsb' 63 1).toNat = b.toNat / 2 ^ 63
  rw [BitVec.extractLsb'_toNat, Nat.shiftRight_eq_div_pow]
  omega

/-- A double whose mantissa is full is unpacked to what it has been packed from. -/
theorem unpack_pack (h : IsCanonical m e) (hfull : 2 ^ 52 ≤ m) (hm : 0 < m) :
    unpack .binary64 (pack .binary64 (.finite .positive m e hm)) = .finite .positive m e hm := by
  obtain ⟨b, hb⟩ : ∃ b : BitVec 64, pack .binary64 (.finite .positive m e hm) = b := ⟨_, rfl⟩
  have hbits := toNat_pack h hm
  obtain ⟨hlt, hle, hhigh, -⟩ := h
  rw [hb] at hbits ⊢
  have hexponent : (@unpackExponent .binary64 b).toNat = (e + 1075).toNat := by
    rw [toNat_unpackExponent]
    omega
  have hmantissa : (@unpackMantissa .binary64 b).toNat = m - 2 ^ 52 := by
    rw [toNat_unpackMantissa]
    omega
  have hsign : @unpackSign .binary64 b = 0#1 := by
    rw [← BitVec.toNat_inj, toNat_unpackSign, BitVec.toNat_zero]
    omega
  -- the exponent is that of a double that is neither infinite nor subnormal
  have hfinite : @unpackExponent .binary64 b ≠ -1#11 := fun heq => by
    rw [heq] at hexponent
    have hones : (-1#11).toNat = 2047 := rfl
    omega
  have hnormal : @unpackExponent .binary64 b ≠ 0#11 := fun heq => by
    rw [heq, BitVec.toNat_zero] at hexponent
    omega
  change (if @unpackExponent .binary64 b = -1#11 then _
    else if @unpackExponent .binary64 b = 0#11 then _ else _) = _
  rw [if_neg hfinite, if_neg hnormal]
  have hvalue : (1#1 ++ @unpackMantissa .binary64 b).toNat = m := by
    rw [BitVec.toNat_append, ← Nat.shiftLeft_add_eq_or_of_lt (BitVec.isLt _), hmantissa,
      Nat.shiftLeft_eq]
    change 1 * 2 ^ 52 + (m - 2 ^ 52) = m
    omega
  have hunbiased : ((@unpackExponent .binary64 b).toNat : Int) - (1023 + 52) = e := by omega
  exact (UnpackedFloat.finite.injEq ..).mpr ⟨by rw [hsign]; rfl, hvalue, hunbiased⟩

/-! ## The parts of a double -/

theorem isNaN_of_isFinite (h : x.isFinite = true) : x.isNaN = false := by
  change x.toModel.unpack.isFinite = true at h
  change x.toModel.unpack.isNaN = false
  cases hunpack : x.toModel.unpack with
  | notANumber =>
    rw [hunpack] at h
    exact Bool.noConfusion h
  | _ => rfl

theorem isInf_of_isFinite (h : x.isFinite = true) : x.isInf = false := by
  change x.toModel.unpack.isFinite = true at h
  change x.toModel.unpack.isInf = false
  cases hunpack : x.toModel.unpack with
  | infinity sign =>
    rw [hunpack] at h
    exact Bool.noConfusion h
  | _ => rfl

/-- Only the infinite doubles and those that are not numbers have the largest exponent. -/
theorem biased_ne_of_isFinite (h : x.isFinite = true) :
    x.toBits.toNat / 2 ^ 52 % 2 ^ 11 ≠ 2047 := fun heq => by
  have hones : (-1#11).toNat = 2047 := rfl
  have hexponent : @unpackExponent .binary64 x.toBits.toBitVec = -1#11 := by
    rw [← BitVec.toNat_inj, toNat_unpackExponent, hones]
    exact heq
  change (if @unpackExponent .binary64 x.toBits.toBitVec = -1#11 then _ else _ :
    UnpackedFloat).isFinite = true at h
  rw [if_pos hexponent] at h
  split at h <;> exact Bool.noConfusion h

theorem mantissa_ofFloat (x : Float) :
    (Binary.ofFloat x).mantissa = (if x.toBits.toNat / 2 ^ 52 % 2 ^ 11 = 0 then
      x.toBits.toNat % 2 ^ 52 else 2 ^ 52 + x.toBits.toNat % 2 ^ 52) := rfl

theorem exponent_ofFloat (x : Float) :
    (Binary.ofFloat x).exponent = (if x.toBits.toNat / 2 ^ 52 % 2 ^ 11 = 0 then
      -1074 else ((x.toBits.toNat / 2 ^ 52 % 2 ^ 11 : Nat) : Int) - 1075) := rfl

theorem isCanonical_ofFloat (h : x.isFinite = true) :
    IsCanonical (Binary.ofFloat x).mantissa (Binary.ofFloat x).exponent := by
  have hne := biased_ne_of_isFinite h
  refine ⟨?_, ?_, ?_, ?_⟩ <;> simp only [mantissa_ofFloat, exponent_ofFloat] <;> split <;> omega

/-- The bits of a double that is not negative count up through its mantissas and then its
exponents. -/
theorem toNat_toBits (h : (Binary.ofFloat x).negative = false) :
    x.toBits.toNat =
      ((Binary.ofFloat x).exponent + 1074).toNat * 2 ^ 52 + (Binary.ofFloat x).mantissa := by
  have hsign : x.toBits.toNat / 2 ^ 63 ≠ 1 := beq_eq_false_iff_ne.mp h
  have hlt : x.toBits.toNat < 2 ^ 64 := x.toBits.toNat_lt
  rw [mantissa_ofFloat, exponent_ofFloat]
  split <;> omega

theorem eq_of_toNat_toBits_eq {x y : Float} (h : x.toBits.toNat = y.toBits.toNat) : x = y := by
  obtain ⟨⟨a, ha⟩⟩ := x
  obtain ⟨⟨b, hb⟩⟩ := y
  obtain rfl : a = b := UInt64.toNat_inj.mp h
  rfl

/-- A finite double that is not negative is packed from its mantissa and its exponent. -/
theorem eq_ofModel_pack (hfinite : x.isFinite = true) (hsign : (Binary.ofFloat x).negative = false)
    (hm : 0 < (Binary.ofFloat x).mantissa) :
    x = Float.ofModel (.pack
      (.finite .positive (Binary.ofFloat x).mantissa (Binary.ofFloat x).exponent hm)) := by
  refine eq_of_toNat_toBits_eq ?_
  rw [toNat_toBits hsign]
  exact (toNat_pack (isCanonical_ofFloat hfinite) hm).symm

theorem eq_zero_of_mantissa (hfinite : x.isFinite = true)
    (hsign : (Binary.ofFloat x).negative = false) (hm : (Binary.ofFloat x).mantissa = 0) :
    x = Float.ofModel (.pack (.zero .positive)) := by
  have hfull := (isCanonical_ofFloat hfinite).full
  refine eq_of_toNat_toBits_eq ?_
  have hzero : (Float.ofModel (.pack (.zero .positive))).toBits.toNat = 0 := by decide
  rw [toNat_toBits hsign, hzero]
  omega

end MediaQuery.Decimal
