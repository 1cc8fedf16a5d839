/-!
# Reading decimals

A decimal is read as the double nearest to it; a tie goes to the even mantissa. `unsigned?` reads
the digits and points of a stylesheet length, `full?` the text of a command-line number, which may
have a sign and an exponent and may name infinity and the value that is not a number.
-/

namespace MediaQuery.Decimal

/-- The number that a run of digits writes. -/
def ofDigits (ds : List Char) : Nat :=
  ds.foldl (fun n d => 10 * n + (d.toNat - '0'.toNat)) 0

/-- `digits` with `places` of them behind the point, times a power of ten. -/
def ofParts (digits : List Char) (places : Nat) (exponent : Int) : Float :=
  match exponent - places with
  | .ofNat n => Float.ofScientific (ofDigits digits) false n
  | .negSucc n => Float.ofScientific (ofDigits digits) true (n + 1)

/-- The double that `digits`, or `digits.digits` with one of the two runs perhaps empty, writes. -/
def unsigned? (cs : List Char) : Option Float :=
  let whole := cs.takeWhile Char.isDigit
  match cs.dropWhile Char.isDigit with
  | [] => if whole.isEmpty then none else some (ofParts whole 0 0)
  | '.' :: fraction =>
    if fraction.all Char.isDigit && !(whole.isEmpty && fraction.isEmpty) then
      some (ofParts (whole ++ fraction) fraction.length 0)
    else none
  | _ :: _ => none

/-- Splits a leading sign off; true for a minus. -/
def splitSign : List Char → Bool × List Char
  | '-' :: cs => (true, cs)
  | '+' :: cs => (false, cs)
  | cs => (false, cs)

/-- The exponent behind an `e`: an optional sign and at least one digit. -/
def exponent? (cs : List Char) : Option Int :=
  let (negative, ds) := splitSign cs
  if ds.isEmpty || !ds.all Char.isDigit then none
  else some (if negative then -(ofDigits ds : Int) else ofDigits ds)

/-- Exponents beyond this size decide the result alone: the value is zero or infinite. -/
def exponentCap (digits : Nat) : Int := 1200 + digits

/-- The double that a decimal without sign writes, with an optional exponent. -/
def withExponent? (cs : List Char) : Option Float :=
  let isMark := fun c : Char => c == 'e' || c == 'E'
  let mantissa := cs.takeWhile (fun c => !isMark c)
  let whole := mantissa.takeWhile Char.isDigit
  let fraction := (mantissa.dropWhile Char.isDigit).drop 1
  match unsigned? mantissa, cs.dropWhile (fun c => !isMark c) with
  | none, _ => none
  | some x, [] => some x
  | some _, _ :: rest =>
    (exponent? rest).map fun e =>
      let cap := exponentCap mantissa.length
      ofParts (whole ++ fraction) fraction.length (max (-cap) (min cap e))

/-- The double that a text writes in full: a sign, then a decimal, `inf`, `infinity` or `nan` in any
letter case. -/
def full? (cs : List Char) : Option Float :=
  let (negative, body) := splitSign cs
  let word := body.map Char.toLower
  let size :=
    if word == "inf".toList || word == "infinity".toList then some (1.0 / 0.0)
    else if word == "nan".toList then some (0.0 / 0.0)
    else withExponent? body
  size.map fun x => if negative then -x else x

end MediaQuery.Decimal
