import MediaQuery.Proofs.Decimal.Bits
import MediaQuery.Proofs.Decimal.Nearest
import Mathlib.Tactic.FieldSimp

/-!
# The shortest decimal is rounded back

The interval that the search for the shortest decimal looks into holds what is rounded to the
double. On a grid with a step that is less than the width of the interval, one of the two neighbours
of the value lies in it, and with seventeen digits the step is less.

* `roundsTo_shortest` — the shortest decimal of a double is rounded to the double
-/

namespace MediaQuery.Decimal

variable {a b m : Nat} {e g : Int} {r : Rounding} {s : Scaled} {x : Float}

/-- What a decimal is worth. -/
def Scaled.value (s : Scaled) : Rat := s.digits * 10 ^ s.exponent

theorem zpow_mul_pow_toNat {x : Rat} (hx : x ≠ 0) (e : Int) :
    x ^ e * x ^ (-e).toNat = x ^ e.toNat := by
  rw [← zpow_natCast, ← zpow_natCast, ← zpow_add₀ hx]
  congr 1
  omega

namespace Rounding

/-! ## The interval -/

/-- An interval around a positive value. -/
structure IsAround (r : Rounding) : Prop where
  den : 0 < r.den
  low : r.low < r.num
  high : r.num < r.high

theorem mem_of_lt (hlow : r.low * b < a * r.den) (hhigh : a * r.den < r.high * b) :
    r.mem a b = true := by
  unfold mem
  split <;> simp <;> omega

theorem le_of_mem (h : r.mem a b = true) :
    r.low * b ≤ a * r.den ∧ a * r.den ≤ r.high * b ∧
      (r.closed = false → r.low * b < a * r.den ∧ a * r.den < r.high * b) := by
  unfold mem at h
  split at h
  · rename_i hclosed
    simp only [Bool.and_eq_true, decide_eq_true_eq] at h
    exact ⟨h.1, h.2, fun hopen => absurd hclosed (by simp [hopen])⟩
  · simp only [Bool.and_eq_true, decide_eq_true_eq] at h
    exact ⟨h.1.le, h.2.le, fun _ => h⟩

/-! ## The grids -/

theorem onGrid_eq_some (h : r.onGrid g = some s) :
    s.exponent = g ∧ r.mem (s.digits * 10 ^ g.toNat) (10 ^ (-g).toNat) = true := by
  unfold onGrid at h
  dsimp only [Nat.pow_eq] at h
  split at h
  · rename_i hbelow habove
    obtain rfl := Option.some.inj h
    refine ⟨rfl, ?_⟩
    split
    · exact habove
    · exact hbelow
  · rename_i hbelow habove
    obtain rfl := Option.some.inj h
    exact ⟨rfl, hbelow⟩
  · rename_i hbelow habove
    obtain rfl := Option.some.inj h
    exact ⟨rfl, habove⟩
  · exact absurd h (Option.some_ne_none s).symm

/-- Of the two neighbours of the value on a grid the lower can only be too low and the upper too
high; both are only if the step is not less than the width of the interval. -/
theorem mem_below_or_above {up down : Nat} (h : r.IsAround) (hup : 0 < up) (hdown : 0 < down)
    (hstep : r.low * down + r.den * up < r.high * down) :
    r.mem (r.num * down / (r.den * up) * up) down = true ∨
      r.mem ((r.num * down / (r.den * up) + 1) * up) down = true := by
  have hlow : r.low * down < r.num * down := Nat.mul_lt_mul_of_pos_right h.low hdown
  have hhigh : r.num * down < r.high * down := Nat.mul_lt_mul_of_pos_right h.high hdown
  have hle : r.num * down / (r.den * up) * (r.den * up) ≤ r.num * down := Nat.div_mul_le_self _ _
  have hlt : r.num * down < (r.num * down / (r.den * up) + 1) * (r.den * up) :=
    Nat.lt_mul_of_div_lt (Nat.lt_succ_self _) (Nat.mul_pos h.den hup)
  generalize r.num * down / (r.den * up) = below at *
  have hassoc : ∀ d, d * up * r.den = d * (r.den * up) := fun d => by ring
  by_cases hbelow : r.low * down < below * (r.den * up)
  · exact Or.inl (mem_of_lt (by rw [hassoc]; exact hbelow) (by rw [hassoc]; omega))
  · refine Or.inr (mem_of_lt (by rw [hassoc]; omega) ?_)
    rw [hassoc, Nat.add_mul, Nat.one_mul]
    omega

/-- A grid with a step that is less than the width of the interval has a point in it. -/
theorem exists_onGrid (h : r.IsAround)
    (hstep : (r.low : Rat) + r.den * 10 ^ g < r.high) : ∃ s, r.onGrid g = some s := by
  have hstep' : r.low * 10 ^ (-g).toNat + r.den * 10 ^ g.toNat < r.high * 10 ^ (-g).toNat := by
    have hpos : (0 : Rat) < 10 ^ (-g).toNat := by positivity
    have hscaled := mul_lt_mul_of_pos_right hstep hpos
    rw [add_mul, mul_assoc, zpow_mul_pow_toNat (by norm_num)] at hscaled
    exact_mod_cast hscaled
  have hmem := mem_below_or_above h (by positivity) (by positivity) hstep'
  unfold onGrid
  dsimp only [Nat.pow_eq]
  split
  · exact ⟨_, rfl⟩
  · exact ⟨_, rfl⟩
  · exact ⟨_, rfl⟩
  · rename_i hbelow habove
    rw [hbelow, habove] at hmem
    exact absurd hmem (by decide)

/-! ## The search -/

theorem lt_pow_length_toDigits (n : Nat) : n < 10 ^ (Nat.toDigits 10 n).length :=
  (Nat.length_toDigits_le_iff (by decide) Nat.length_toDigits_pos).mp le_rfl

theorem pow_length_toDigits_le {n : Nat} (hn : 0 < n) :
    10 ^ ((Nat.toDigits 10 n).length - 1) ≤ n := by
  by_contra hlt
  by_cases hone : (Nat.toDigits 10 n).length - 1 = 0
  · rw [hone] at hlt
    omega
  · have hle := (Nat.length_toDigits_le_iff (b := 10) (by decide) (Nat.pos_of_ne_zero hone)).mpr
      (Nat.lt_of_not_le hlt)
    omega

/-- The magnitude counts the digits in front of the point. -/
theorem le_of_magnitude (h : r.IsAround) : (10 : Rat) ^ (r.magnitude - 1) ≤ r.num / r.den := by
  have hden : (0 : Rat) < r.den := by exact_mod_cast h.den
  have hnum : 0 < r.num := Nat.lt_of_le_of_lt (Nat.zero_le _) h.low
  rw [le_div_iff₀ hden, magnitude]
  split
  · rename_i hle
    have hlength : 0 < (Nat.toDigits 10 (r.num / r.den)).length := Nat.length_toDigits_pos
    have hdigits := Nat.mul_le_of_le_div _ _ _
      (pow_length_toDigits_le (Nat.div_pos hle h.den))
    rw [← Nat.cast_one, ← Nat.cast_sub hlength, zpow_natCast]
    exact_mod_cast hdigits
  · rename_i hlt
    have hdigits : r.den < 10 ^ (Nat.toDigits 10 (r.den / r.num)).length * r.num :=
      (Nat.div_lt_iff_lt_mul hnum).mp (lt_pow_length_toDigits _)
    rw [sub_sub_cancel_left, zpow_neg, zpow_natCast, inv_mul_le_iff₀ (by positivity)]
    exact_mod_cast hdigits.le

/-- What the search returns is a point of the interval, if there is one with seventeen digits. -/
theorem exists_onGrid_eq_shortest (hfound : ∃ s, r.onGrid (r.magnitude - 17) = some s) :
    ∃ g, r.onGrid g = some r.shortest := by
  obtain ⟨s, hs⟩ := hfound
  cases hsearch : (List.range 18).findSome? fun (count : Nat) => r.onGrid (r.magnitude - count) with
  | none =>
    have hnone := List.findSome?_eq_none_iff.mp hsearch 17 (by decide)
    exact absurd (hs.symm.trans hnone) (Option.some_ne_none s)
  | some found =>
    obtain ⟨count, -, hcount⟩ := List.exists_of_findSome?_eq_some hsearch
    refine ⟨r.magnitude - count, hcount.trans ?_⟩
    rw [shortest, hsearch]
    rfl

/-! ## The interval of a double -/

variable {narrow : Bool}

theorem isAround_ofBinary (hm : 0 < m) (e : Int) (narrow : Bool) :
    (ofBinary m e narrow).IsAround := by
  have hup : 0 < 2 ^ e.toNat := by positivity
  have hdown : 0 < 2 ^ (-e).toNat := by positivity
  refine ⟨?_, ?_, ?_⟩
  · exact Nat.mul_pos (by norm_num) hdown
  · exact Nat.mul_lt_mul_of_pos_right (by cases narrow <;> simp <;> omega) hup
  · exact Nat.mul_lt_mul_of_pos_right (by omega) hup

/-- What lies in the interval of a double is not further off than half of a step of its grid, or a
quarter of one below a power of two. -/
structure IsWithin (m : Nat) (narrow : Bool) (y : Rat) : Prop where
  low : 4 * (m : Rat) - (if narrow then 1 else 2) ≤ 4 * y
  high : 4 * y ≤ 4 * (m : Rat) + 2
  odd : m % 2 = 1 →
    4 * (m : Rat) - (if narrow then 1 else 2) < 4 * y ∧ 4 * y < 4 * (m : Rat) + 2

/-- The ends of the interval are told in quarters of a step. -/
theorem quarters_eq (a b : Nat) (e : Int) :
    4 * ((a : Rat) / b / 2 ^ e) =
      ((a * (4 * 2 ^ (-e).toNat) : Nat) : Rat) / ((2 ^ e.toNat * b : Nat) : Rat) := by
  have hscale := zpow_mul_pow_toNat (by norm_num : (2 : Rat) ≠ 0) e
  push_cast
  rw [← hscale]
  field_simp

theorem ofBinary_eq (m : Nat) (e : Int) (narrow : Bool) :
    ofBinary m e narrow =
      { low := (4 * m - if narrow then 1 else 2) * 2 ^ e.toNat, num := 4 * m * 2 ^ e.toNat,
        high := (4 * m + 2) * 2 ^ e.toNat, den := 4 * 2 ^ (-e).toNat, closed := m % 2 == 0 } := rfl

theorem cast_cut (hm : 0 < m) (narrow : Bool) :
    ((4 * m - (if narrow then 1 else 2) : Nat) : Rat) = 4 * m - (if narrow then 1 else 2) := by
  rw [Nat.cast_sub (by split <;> omega)]
  split <;> push_cast <;> rfl

/-- What the search takes for a point of the interval is one. -/
theorem isWithin_of_mem (hm : 0 < m) (hb : 0 < b) (h : (ofBinary m e narrow).mem a b = true) :
    IsWithin m narrow (a / b / 2 ^ e) := by
  obtain ⟨hlow, hhigh, hopen⟩ := le_of_mem h
  have hpos : (0 : Rat) < ((2 ^ e.toNat * b : Nat) : Rat) := by
    exact_mod_cast Nat.mul_pos (by positivity) hb
  have hcut := cast_cut hm narrow
  simp only [ofBinary, Nat.pow_eq, Nat.mul_assoc] at hlow hhigh hopen
  refine ⟨?_, ?_, fun hodd => ?_⟩
  · rw [quarters_eq, le_div_iff₀ hpos, ← hcut]
    exact_mod_cast hlow
  · rw [quarters_eq, div_le_iff₀ hpos]
    exact_mod_cast hhigh
  · obtain ⟨hlow, hhigh⟩ := hopen (by rw [hodd]; rfl)
    rw [quarters_eq, lt_div_iff₀ hpos, div_lt_iff₀ hpos, ← hcut]
    exact ⟨by exact_mod_cast hlow, by exact_mod_cast hhigh⟩

theorem cast_low (hm : 0 < m) (e : Int) (narrow : Bool) :
    ((ofBinary m e narrow).low : Rat) = (4 * m - (if narrow then 1 else 2)) * 2 ^ e.toNat := by
  rw [← cast_cut hm, ofBinary_eq]
  push_cast
  rfl

theorem cast_num (m : Nat) (e : Int) (narrow : Bool) :
    ((ofBinary m e narrow).num : Rat) = 4 * m * 2 ^ e.toNat := by
  rw [ofBinary_eq]
  push_cast
  rfl

theorem cast_high (m : Nat) (e : Int) (narrow : Bool) :
    ((ofBinary m e narrow).high : Rat) = (4 * m + 2) * 2 ^ e.toNat := by
  rw [ofBinary_eq]
  push_cast
  rfl

/-- Seventeen digits suffice. -/
theorem exists_onGrid_seventeen (hm : 0 < m) (hlt : m < 2 ^ 53)
    (hnarrow : narrow = true → m = 2 ^ 52) :
    ∃ s, (ofBinary m e narrow).onGrid ((ofBinary m e narrow).magnitude - 17) = some s := by
  have haround := isAround_ofBinary hm e narrow
  refine exists_onGrid haround ?_
  have hden : (0 : Rat) < (ofBinary m e narrow).den := by exact_mod_cast haround.den
  have hmagnitude := (le_div_iff₀ hden).mp (le_of_magnitude haround)
  have hstep : (10 : Rat) ^ ((ofBinary m e narrow).magnitude - 1) =
      10 ^ ((ofBinary m e narrow).magnitude - 17) * 10 ^ 16 := by
    rw [← zpow_natCast, ← zpow_add₀ (by norm_num)]
    congr 1
    omega
  -- the value is less than `10 ^ 16` times the width of its interval
  have hwide : (4 * m : Rat) < 10 ^ 16 * (2 + if narrow then 1 else 2) := by
    have hlt' : (m : Rat) < 2 ^ 53 := by exact_mod_cast hlt
    split
    · rename_i hcut
      rw [hnarrow hcut]
      norm_num
    · linarith
  have hup : (0 : Rat) < 2 ^ e.toNat := by positivity
  have hsmall := hmagnitude.trans_lt ((cast_num m e narrow).trans_lt
    (mul_lt_mul_of_pos_right hwide hup))
  rw [cast_low hm, cast_high]
  rw [hstep] at hsmall
  linarith

/-- The shortest decimal lies in the interval. -/
theorem isWithin_shortest (hm : 0 < m) (hlt : m < 2 ^ 53) (hnarrow : narrow = true → m = 2 ^ 52) :
    IsWithin m narrow ((ofBinary m e narrow).shortest.value / 2 ^ e) := by
  obtain ⟨g, hg⟩ := exists_onGrid_eq_shortest (exists_onGrid_seventeen hm hlt hnarrow (e := e))
  obtain ⟨hexponent, hmem⟩ := onGrid_eq_some hg
  have hvalue : (ofBinary m e narrow).shortest.value =
      ((ofBinary m e narrow).shortest.digits * 10 ^ g.toNat : Nat) / (10 ^ (-g).toNat : Nat) := by
    rw [Scaled.value, hexponent, Nat.cast_mul, Nat.cast_pow, Nat.cast_pow, Nat.cast_ofNat,
      ← zpow_mul_pow_toNat (by norm_num)]
    field_simp
  rw [hvalue]
  exact isWithin_of_mem hm (by positivity) hmem

theorem IsWithin.isNearest {y : Rat} (h : IsWithin m narrow y) : IsNearest m y := by
  have hlow := h.low
  have hhigh := h.high
  have hcut : (if narrow then 1 else 2 : Rat) ≤ 2 := by split <;> norm_num
  refine ⟨by linarith, by linarith, fun htie => ?_⟩
  by_contra hodd
  obtain ⟨hlow', hhigh'⟩ := h.odd (by omega)
  rcases htie with htie | htie <;> linarith

end Rounding

open Rounding (IsWithin)

variable {v : Rat}

/-- Below a power of two the grid is finer, and rounding up leads to the power. -/
theorem roundsTo_of_lt (he : -1074 < e) (hlt : v / 2 ^ e < 2 ^ 52)
    (h : IsWithin (2 ^ 52) true (v / 2 ^ e)) : RoundsTo v (2 ^ 52) e := by
  have hlow : 2 ^ 54 - 1 ≤ 4 * (v / 2 ^ e) := by
    have hlow := h.low
    norm_num at hlow ⊢
    linarith
  have hhalf : v / 2 ^ (e - 1) = 2 * (v / 2 ^ e) := by
    rw [zpow_sub₀ (by norm_num), zpow_one]
    field_simp
  have hcarry : RoundsTo v (2 ^ 52) (e - 1 + 1) := by
    refine .carry ⟨by omega, lt_two_zpow ?_, Or.inr (two_zpow_le ?_)⟩ ⟨?_, ?_, fun _ => rfl⟩ <;>
      rw [hhalf]
    · linarith
    · linarith
    · push_cast
      linarith
    · push_cast
      linarith
  rwa [sub_add_cancel] at hcarry

/-- What lies in the interval of a double is rounded to it. -/
theorem roundsTo_of_isWithin (h : IsCanonical m e)
    (hv : IsWithin m (m == Nat.pow 2 52 && decide (-1074 < e)) (v / 2 ^ e)) : RoundsTo v m e := by
  obtain ⟨hlt, hle, -, hfull⟩ := h
  by_cases hbelow : e ≠ -1074 ∧ v / 2 ^ e < 2 ^ 52
  · obtain ⟨hne, hbelow⟩ := hbelow
    have hle' : m < 2 ^ 52 + 1 := by
      have hlow := hv.isNearest.low
      exact_mod_cast (by linarith : (m : Rat) < 2 ^ 52 + 1)
    obtain rfl : m = 2 ^ 52 := by
      have hfull' := hfull.resolve_left hne
      omega
    rw [decide_eq_true (by omega : -1074 < e), Bool.and_true] at hv
    exact roundsTo_of_lt (by omega) hbelow hv
  · have hhigh := hv.high
    have hlt' : (m : Rat) + 1 ≤ 2 ^ 53 := by exact_mod_cast hlt
    refine .near ⟨hle, lt_two_zpow (by linarith), ?_⟩ hv.isNearest hlt
    by_cases he : e = -1074
    · exact Or.inl he
    · exact Or.inr (two_zpow_le (not_lt.mp fun hlt => hbelow ⟨he, hlt⟩))

/-- The shortest decimal of a double is rounded to the double. -/
theorem roundsTo_shortest (h : x.isFinite = true) (hm : 0 < (Binary.ofFloat x).mantissa) :
    RoundsTo (shortest x).value (Binary.ofFloat x).mantissa (Binary.ofFloat x).exponent := by
  have hcanonical := isCanonical_ofFloat h
  rw [shortest, if_neg hm.ne']
  refine roundsTo_of_isWithin hcanonical (Rounding.isWithin_shortest hm hcanonical.lt ?_)
  exact fun hnarrow => beq_iff_eq.mp (Bool.and_eq_true_iff.mp hnarrow).1

end MediaQuery.Decimal
