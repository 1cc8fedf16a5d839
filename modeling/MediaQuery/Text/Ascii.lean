/-!
# ASCII classes

Stylesheets, URLs and markup all fold case and skip space over ASCII alone. The letters, digits and
case maps of `Char` in the core library already stop at ASCII; this module adds ASCII white space
and comparison that ignores ASCII case.
-/

namespace MediaQuery.Ascii

/-- Space, tab, line feed, form feed and carriage return. Vertical tab is not among them. -/
def isSpace (c : Char) : Bool :=
  c == ' ' || c == '\t' || c == '\n' || c == '\x0c' || c == '\r'

/-- Text with its ASCII capitals made small. -/
def lower (cs : List Char) : List Char := cs.map Char.toLower

/-- Whether two texts are equal once their ASCII capitals are made small. -/
def sameLetters (a b : List Char) : Bool := lower a == lower b

/-- Whether two strings are equal once their ASCII capitals are made small. -/
def sameName (a b : String) : Bool := sameLetters a.toList b.toList

/-- A string with its ASCII capitals made small. -/
def lowerString (s : String) : String := String.ofList (lower s.toList)

/-- The text after its leading ASCII white space. -/
def skipSpace (cs : List Char) : List Char := cs.dropWhile isSpace

/-- The text after `word`, if it begins with `word` in any letter case. -/
def dropWord? : (word cs : List Char) → Option (List Char)
  | [], cs => some cs
  | _ :: _, [] => none
  | w :: word, c :: cs => if w.toLower == c.toLower then dropWord? word cs else none

/-- The value of a hexadecimal digit. -/
def hexValue (c : Char) : Option Nat :=
  if c.isDigit then some (c.toNat - '0'.toNat)
  else if 'a' ≤ c ∧ c ≤ 'f' then some (c.toNat - 'a'.toNat + 10)
  else if 'A' ≤ c ∧ c ≤ 'F' then some (c.toNat - 'A'.toNat + 10)
  else none

theorem sameLetters_refl (a : List Char) : sameLetters a a = true := by simp [sameLetters]

theorem sameLetters_comm (a b : List Char) : sameLetters a b = sameLetters b a := by
  unfold sameLetters
  exact BEq.comm

theorem sameName_refl (a : String) : sameName a a = true := sameLetters_refl _

theorem sameName_comm (a b : String) : sameName a b = sameName b a := sameLetters_comm _ _

/-- Names that are the same are the same as the same names. -/
theorem sameName_congr {a b : String} (h : sameName a b = true) (c : String) :
    sameName a c = sameName b c := by
  simp only [sameName, sameLetters, beq_iff_eq] at h ⊢
  rw [h]

theorem length_skipSpace_le (cs : List Char) : (skipSpace cs).length ≤ cs.length :=
  (List.dropWhile_sublist _).length_le

end MediaQuery.Ascii
