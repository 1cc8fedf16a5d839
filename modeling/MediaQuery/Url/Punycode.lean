/-!
# Punycode

Writes a text over all characters as one over letters, digits and the hyphen. The plain characters
come first, behind them a hyphen, and then, in the order of their code points, where each of the
other characters goes, as a distance from the one before.

A distance is written with digits of varying weight, the lowest first. The threshold below which a
digit is the last depends on a bias, which follows the size of the distances.
-/

namespace MediaQuery.Url.Punycode

/-- The digit of a value: a letter up to twenty-five, then a numeral. -/
def digit (value : Nat) : Char :=
  if value < 26 then Char.ofNat ('a'.toNat + value) else Char.ofNat ('0'.toNat + (value - 26))

/-- The value of a digit, in either letter case. -/
def digitValue? (c : Char) : Option Nat :=
  if 'a' ≤ c ∧ c ≤ 'z' then some (c.toNat - 'a'.toNat)
  else if 'A' ≤ c ∧ c ≤ 'Z' then some (c.toNat - 'A'.toNat)
  else if c.isDigit then some (c.toNat - '0'.toNat + 26)
  else none

/-- The threshold of the digit at position `k`, which counts in steps of thirty-six. -/
def threshold (bias k : Nat) : Nat := max 1 (min 26 (k - bias))

theorem one_le_threshold (bias k : Nat) : 1 ≤ threshold bias k := Nat.le_max_left ..

/-- The bias for what is left of a distance, and the position that it has come to. -/
def settleBias (distance k : Nat) : Nat :=
  if 455 < distance then settleBias (distance / 35) (k + 36)
  else k + 36 * distance / (distance + 38)
termination_by distance
decreasing_by exact Nat.div_lt_self (by omega) (by decide)

/-- The bias after a distance, with `count` characters in place. -/
def adapt (distance count : Nat) (first : Bool) : Nat :=
  let scaled := if first then distance / 700 else distance / 2
  settleBias (scaled + scaled / count) 0

/-- The digits of a distance, from position `k` on. -/
def digits (bias k distance : Nat) : List Char :=
  let t := threshold bias k
  if distance < t then [digit distance]
  else digit (t + (distance - t) % (36 - t)) :: digits bias (k + 36) ((distance - t) / (36 - t))
termination_by distance
decreasing_by
  have := one_le_threshold bias k
  exact Nat.lt_of_le_of_lt (Nat.div_le_self ..) (by omega)

/-- How far the writing of a text has come. -/
structure Writing where
  distance : Nat
  bias : Nat
  /-- The number of characters in place. -/
  placed : Nat
  written : List Char

/-- Passes a character of the text while the character of code point `point` is being placed. -/
def Writing.pass (plain point : Nat) (w : Writing) (c : Char) : Writing :=
  if c.toNat < point then { w with distance := w.distance + 1 }
  else if c.toNat = point then
    { distance := 0
      bias := adapt w.distance (w.placed + 1) (w.placed == plain)
      placed := w.placed + 1
      written := w.written ++ digits w.bias 36 w.distance }
  else w

/-- Places the characters of some code points, which ascend; `next` is the least that may come. -/
def place (text : List Char) (plain : Nat) : (points : List Nat) → (next : Nat) → Writing → Writing
  | [], _, w => w
  | point :: rest, next, w =>
    let w := { w with distance := w.distance + (point - next) * (w.placed + 1) }
    let w := text.foldl (Writing.pass plain point) w
    place text plain rest (point + 1) { w with distance := w.distance + 1 }

/-- Whether a character is written as it is. -/
def isPlain (c : Char) : Bool := c.toNat < 128

/-- Writes a text. -/
def encode (text : List Char) : List Char :=
  let plain := text.filter isPlain
  let points := ((text.filter fun c => !isPlain c).map Char.toNat).mergeSort.eraseDups
  let head := if plain.isEmpty then [] else plain ++ ['-']
  head ++ (place text plain.length points 128 ⟨0, 72, plain.length, []⟩).written

/-- Reads a distance from position `k` on, adding it to `total`; `weight` is the weight of the first
digit. -/
def distance? (bias : Nat) : (k weight total : Nat) → List Char → Option (Nat × List Char)
  | _, _, _, [] => none
  | k, weight, total, c :: cs =>
    match digitValue? c with
    | none => none
    | some value =>
      let t := threshold bias k
      let total := total + value * weight
      if value < t then some (total, cs) else distance? bias (k + 36) (weight * (36 - t)) total cs

theorem length_distance? {bias k weight total found : Nat} {cs rest : List Char}
    (h : distance? bias k weight total cs = some (found, rest)) : rest.length < cs.length := by
  induction cs generalizing k weight total with
  | nil => simp [distance?] at h
  | cons c cs ih =>
    rw [distance?] at h
    split at h
    · simp at h
    · dsimp only at h
      split at h
      · simp only [Option.some.injEq, Prod.mk.injEq] at h
        simp [h.2]
      · have := ih h
        simp only [List.length_cons]
        omega

/-- The character of a code point beyond the plain ones, if there is one. -/
def character? (point : Nat) : Option Char :=
  if 128 ≤ point ∧ point.isValidChar then some (Char.ofNat point) else none

/-- Puts the characters that the digits tell of into a text. -/
def fill (bias point position : Nat) (text cs : List Char) : Option (List Char) :=
  match cs with
  | [] => some text
  | c :: cs =>
    match h : distance? bias 36 1 position (c :: cs) with
    | none => none
    | some (found, rest) =>
      have := length_distance? h
      let count := text.length + 1
      let point := point + found / count
      match character? point with
      | none => none
      | some character =>
        let bias := adapt (found - position) count (position == 0)
        fill bias point (found % count + 1) (text.insertIdx (found % count) character) rest
termination_by cs.length
decreasing_by simpa using this

/-- Reads a text back. -/
def decode? (cs : List Char) : Option (List Char) :=
  let behind := cs.reverse.takeWhile (· != '-')
  let plain := (cs.reverse.drop (behind.length + 1)).reverse
  if plain.all isPlain then fill 72 128 0 plain behind.reverse else none

end MediaQuery.Url.Punycode
