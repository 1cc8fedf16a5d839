import MediaQuery.Decimal.Shortest

/-!
# Decimal notation

Two ways to write a double with its shortest digits. `plain` is positional at every size and writes
whole numbers without a point; lengths and widths are shown in it. `exact` keeps the point of whole
numbers and turns to an exponent far from one; the fields of a bound are traced in it.
-/

namespace MediaQuery.Decimal

/-- The digits of a number, leading zeros added up to `width`. -/
def padded (width n : Nat) : List Char :=
  let ds := Nat.toDigits 10 n
  List.replicate (width - ds.length) '0' ++ ds

/-- A decimal written without an exponent; whole numbers have no point. -/
def positional (s : Scaled) : List Char :=
  match s.exponent with
  | .ofNat n => if s.digits = 0 then ['0'] else Nat.toDigits 10 s.digits ++ List.replicate n '0'
  | .negSucc n =>
    let places := n + 1
    let ds := padded (places + 1) s.digits
    ds.take (ds.length - places) ++ '.' :: ds.drop (ds.length - places)

/-- A decimal written with one digit before the point and an exponent. -/
def scientific (s : Scaled) : List Char :=
  let ds := Nat.toDigits 10 s.digits
  let exponent := s.exponent + ds.length - 1
  let rest := ds.drop 1
  ds.take 1 ++ (if rest.isEmpty then [] else '.' :: rest) ++ 'e' :: (toString exponent).toList

/-- Writes a double, given how its absolute value is written when it is finite. -/
def write (finite : Float → List Char) (x : Float) : String :=
  if x.isNaN then "NaN"
  else
    let sign := if (Binary.ofFloat x).negative then ['-'] else []
    String.ofList (sign ++ if x.isInf then "inf".toList else finite x)

/-- A double as positional digits: `600`, `40.5`, `-0`, `NaN`, `inf`. -/
def plain (x : Float) : String := write (fun y => positional (shortest y)) x

/-- A double with a point or an exponent: `600.0`, `1e16`, `1e-5`. Positional from a ten-thousandth
up to ten to the sixteenth. -/
def exact (x : Float) : String :=
  write (fun y =>
    let s := shortest y
    let size := Float.abs y
    if y == 0.0 || (decide (1e-4 ≤ size) && decide (size < 1e16)) then
      positional s ++ (if s.exponent < 0 then [] else ['.', '0'])
    else scientific s) x

end MediaQuery.Decimal
