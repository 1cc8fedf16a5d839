/-!
# The shortest decimal that reads back

A finite double stands for the whole interval of reals that round to it. Of the decimals in that
interval the ones with the fewest digits are candidates, and the one nearest to the double is taken;
of two that are equally near, the larger.

The search runs in exact natural-number arithmetic. The value is `num / den`, the ends of its
interval are `low / den` and `high / den`, and a grid is the set of multiples of a power of ten.
If any point of a grid lies in the interval, so does one of the two neighbours of the value on that
grid, and therefore only these two are tested.
-/

namespace MediaQuery.Decimal

/-- The decimal `digits * 10 ^ exponent`. -/
structure Scaled where
  digits : Nat
  exponent : Int
deriving DecidableEq, Repr

/-- A positive rational with the interval of reals that round to it, over one denominator. -/
structure Rounding where
  low : Nat
  num : Nat
  high : Nat
  den : Nat
  /-- Whether the ends of the interval belong to it. -/
  closed : Bool
deriving DecidableEq, Repr

namespace Rounding

/-- The interval of the double `mantissa * 2 ^ exponent`; `narrow` says that the next smaller
double is only half as far away as the next larger one. -/
def ofBinary (mantissa : Nat) (exponent : Int) (narrow : Bool) : Rounding :=
  let up := Nat.pow 2 exponent.toNat
  { low := (4 * mantissa - if narrow then 1 else 2) * up
    num := 4 * mantissa * up
    high := (4 * mantissa + 2) * up
    den := 4 * Nat.pow 2 (-exponent).toNat
    closed := mantissa % 2 == 0 }

/-- Whether `a / b` lies in the interval. -/
def mem (r : Rounding) (a b : Nat) : Bool :=
  if r.closed then r.low * b ≤ a * r.den && a * r.den ≤ r.high * b
  else r.low * b < a * r.den && a * r.den < r.high * b

/-- The number of digits before the point; zero or negative for a value below one. -/
def magnitude (r : Rounding) : Int :=
  if r.den ≤ r.num then ((Nat.toDigits 10 (r.num / r.den)).length : Int)
  else 1 - ((Nat.toDigits 10 (r.den / r.num)).length : Int)

/-- The point of the grid of step `10 ^ exponent` that lies in the interval, the nearer of two. -/
def onGrid (r : Rounding) (exponent : Int) : Option Scaled :=
  let up := Nat.pow 10 exponent.toNat
  let down := Nat.pow 10 (-exponent).toNat
  let below := r.num * down / (r.den * up)
  let isIn := fun d => r.mem (d * up) down
  let upperIsNearer := r.den * up * (2 * below + 1) ≤ 2 * (r.num * down)
  match isIn below, isIn (below + 1) with
  | true, true => some ⟨if upperIsNearer then below + 1 else below, exponent⟩
  | true, false => some ⟨below, exponent⟩
  | false, true => some ⟨below + 1, exponent⟩
  | false, false => none

/-- The decimal with the fewest digits in the interval. Seventeen digits always suffice. -/
def shortest (r : Rounding) : Scaled :=
  let magnitude := r.magnitude
  ((List.range 18).findSome? fun (count : Nat) => r.onGrid (magnitude - (count : Int))).getD ⟨0, 0⟩

end Rounding

/-- The three parts of a finite double: its sign, and its value as a mantissa and a power of two. -/
structure Binary where
  negative : Bool
  mantissa : Nat
  exponent : Int
deriving DecidableEq, Repr

/-- The parts of a double, from its bits. -/
def Binary.ofFloat (x : Float) : Binary :=
  let bits : Nat := x.toBits.toNat
  let fraction : Nat := bits % Nat.pow 2 52
  let biased : Nat := bits / Nat.pow 2 52 % Nat.pow 2 11
  { negative := bits / Nat.pow 2 63 == 1
    mantissa := if biased = 0 then fraction else Nat.pow 2 52 + fraction
    exponent := if biased = 0 then -1074 else (biased : Int) - 1075 }

/-- The shortest decimal that reads back as the absolute value of a finite double. -/
def shortest (x : Float) : Scaled :=
  let b := Binary.ofFloat x
  if b.mantissa = 0 then ⟨0, 0⟩
  else (Rounding.ofBinary b.mantissa b.exponent
    (b.mantissa == Nat.pow 2 52 && decide (-1074 < b.exponent))).shortest

end MediaQuery.Decimal
