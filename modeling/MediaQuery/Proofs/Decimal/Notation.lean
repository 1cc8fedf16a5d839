import MediaQuery.Decimal.Notation
import MediaQuery.Proofs.Condition.Grammar
import MediaQuery.Proofs.Decimal.Literal
import MediaQuery.Proofs.Decimal.Shortest

/-!
# Plain decimals are read back

A finite double is shown with its shortest decimal, and reading rounds that to the double again.

* `isDecimal_plain` — every finite double with a positive sign is read back from its digits
-/

namespace MediaQuery.Decimal

variable {n : Nat} {s : Scaled} {x : Float}

/-! ## Digits -/

theorem ofDigits_eq (ds : List Char) : ofDigits ds = Nat.ofDigitChars 10 ds 0 :=
  Nat.ofDigitChars_eq_foldl.symm

theorem isDigit_of_mem_replicate {d : Char} (h : d ∈ List.replicate n '0') : d.isDigit = true := by
  rw [List.eq_of_mem_replicate h]
  rfl

theorem isDigit_of_mem_toDigits {d : Char} (h : d ∈ Nat.toDigits 10 n) : d.isDigit = true :=
  Nat.isDigit_of_mem_toDigits (by decide) (by decide) h

theorem ofDigits_toDigits_append (n places : Nat) :
    ofDigits (Nat.toDigits 10 n ++ List.replicate places '0') = n * 10 ^ places := by
  rw [ofDigits_eq, Nat.ofDigitChars_append, Nat.ofDigitChars_ten_toDigits,
    Nat.ofDigitChars_replicate_zero, Nat.mul_comm]

theorem ofDigits_padded (width n : Nat) : ofDigits (padded width n) = n := by
  rw [ofDigits_eq, padded, Nat.ofDigitChars_append, Nat.ofDigitChars_replicate_zero, Nat.mul_zero,
    Nat.ofDigitChars_ten_toDigits]

theorem le_length_padded (width n : Nat) : width ≤ (padded width n).length := by
  rw [padded, List.length_append, List.length_replicate]
  omega

theorem isDigit_of_mem_padded {width : Nat} {d : Char} (h : d ∈ padded width n) :
    d.isDigit = true := by
  rcases List.mem_append.mp h with h | h
  · exact isDigit_of_mem_replicate h
  · exact isDigit_of_mem_toDigits h

/-! ## Positional decimals -/

/-- The double that the value of a decimal is rounded to. -/
def Scaled.toFloat (s : Scaled) : Float :=
  match s.exponent with
  | .ofNat n => Float.ofScientific (s.digits * 10 ^ n) false 0
  | .negSucc n => Float.ofScientific s.digits true (n + 1)

theorem ofParts_whole (ds : List Char) :
    ofParts ds 0 0 = Float.ofScientific (ofDigits ds) false 0 := rfl

theorem ofParts_places (ds : List Char) (n : Nat) :
    ofParts ds (n + 1) 0 = Float.ofScientific (ofDigits ds) true (n + 1) := by
  have hexponent : (0 : Int) - (n + 1 : Nat) = .negSucc n := by omega
  rw [ofParts, hexponent]

/-- A positional decimal is read as the double of its value. -/
theorem isDecimal_positional (s : Scaled) : IsDecimal (positional s) s.toFloat := by
  obtain ⟨digits, exponent⟩ := s
  cases exponent with
  | ofNat n =>
    simp only [positional, Scaled.toFloat]
    split
    · rename_i hzero
      rw [hzero, Nat.zero_mul]
      exact @IsDecimal.whole ['0'] (forall_mem_of_all (by decide)) (List.cons_ne_nil _ _)
    · rw [← ofDigits_toDigits_append, ← ofParts_whole]
      exact .whole (fun d hd => (List.mem_append.mp hd).elim isDigit_of_mem_toDigits
        isDigit_of_mem_replicate) (by simp [Nat.toDigits_ne_nil])
  | negSucc n =>
    simp only [positional, Scaled.toFloat]
    have hlength := le_length_padded (n + 2) digits
    have hpoint := @IsDecimal.point
      ((padded (n + 2) digits).take ((padded (n + 2) digits).length - (n + 1)))
      ((padded (n + 2) digits).drop ((padded (n + 2) digits).length - (n + 1)))
      (fun d hd => isDigit_of_mem_padded (List.mem_of_mem_take hd))
      (fun d hd => isDigit_of_mem_padded (List.mem_of_mem_drop hd))
      (Or.inr fun hnil => by
        have hlength' := congrArg List.length hnil
        rw [List.length_drop, List.length_nil] at hlength'
        omega)
    rw [List.take_append_drop, List.length_drop, Nat.sub_sub_self (by omega), ofParts_places,
      ofDigits_padded] at hpoint
    exact hpoint

/-! ## Plain decimals -/

theorem toFloat_eq {m : Nat} {e : Int} (h : RoundsTo s.value m e) (hm : 0 < m) :
    s.toFloat = .ofModel (.pack (.finite .positive m e hm)) := by
  obtain ⟨digits, exponent⟩ := s
  cases exponent with
  | ofNat n =>
    refine ofScientific_whole ?_ hm
    rw [Nat.cast_mul, Nat.cast_pow, Nat.cast_ofNat, ← zpow_natCast]
    exact h
  | negSucc n =>
    refine ofScientific_places (Nat.succ_pos n) ?_ hm
    rw [div_eq_mul_inv, ← zpow_negSucc]
    exact h

/-- The shortest decimal of a double is read as the double. -/
theorem toFloat_shortest (hfinite : x.isFinite = true) (hsign : (Binary.ofFloat x).negative = false) :
    (shortest x).toFloat = x := by
  by_cases hm : (Binary.ofFloat x).mantissa = 0
  · have hzero : shortest x = ⟨0, 0⟩ := by rw [shortest, if_pos hm]
    rw [hzero, eq_zero_of_mantissa hfinite hsign hm]
    decide
  · have hpos := Nat.pos_of_ne_zero hm
    exact (toFloat_eq (roundsTo_shortest hfinite hpos) hpos).trans
      (eq_ofModel_pack hfinite hsign hpos).symm

theorem toList_plain (hfinite : x.isFinite = true) (hsign : (Binary.ofFloat x).negative = false) :
    (plain x).toList = positional (shortest x) := by
  simp only [plain, write, isNaN_of_isFinite hfinite, isInf_of_isFinite hfinite, hsign,
    Bool.false_eq_true, if_false, List.nil_append, String.toList_ofList]

/-- Every finite double with a positive sign is read back from the digits that it is shown with. -/
theorem isDecimal_plain (hfinite : x.isFinite = true) (hsign : (Binary.ofFloat x).negative = false) :
    IsDecimal (plain x).toList x := by
  have hdecimal := isDecimal_positional (shortest x)
  rwa [toFloat_shortest hfinite hsign, ← toList_plain hfinite hsign] at hdecimal

end MediaQuery.Decimal
