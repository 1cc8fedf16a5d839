/-!
# Sizes in bytes

Positions that are reported to a reader count the bytes of a text in UTF-8.
-/

namespace MediaQuery.Size

/-- The number of bytes of a text in UTF-8. -/
def utf8 : List Char → Nat
  | [] => 0
  | c :: cs => c.utf8Size + utf8 cs

@[simp] theorem utf8_nil : utf8 [] = 0 := rfl

@[simp] theorem utf8_cons (c : Char) (cs : List Char) : utf8 (c :: cs) = c.utf8Size + utf8 cs := rfl

@[simp] theorem utf8_append (a b : List Char) : utf8 (a ++ b) = utf8 a + utf8 b := by
  induction a with
  | nil => simp
  | cons c a ih => simp [ih, Nat.add_assoc]

theorem utf8_pos {cs : List Char} (h : cs ≠ []) : 0 < utf8 cs := by
  obtain ⟨c, cs, rfl⟩ := List.exists_cons_of_ne_nil h
  exact Nat.lt_of_lt_of_le c.utf8Size_pos (Nat.le_add_right _ _)

theorem utf8_lt_append (a : List Char) {b : List Char} (h : b ≠ []) : utf8 a < utf8 (a ++ b) := by
  rw [utf8_append]
  exact Nat.lt_add_of_pos_right (utf8_pos h)

end MediaQuery.Size
