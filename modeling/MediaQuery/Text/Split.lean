/-!
# Splitting texts

Texts as lists of parts, taken apart at separators and joined by them.
-/

namespace MediaQuery.Split

/-- Puts a character at the front of the first part. -/
def consFirst (c : Char) : List (List Char) → List (List Char)
  | [] => [[c]]
  | part :: parts => (c :: part) :: parts

/-- The parts of a text between separators; there is always one. -/
def splitOn (isSeparator : Char → Bool) : List Char → List (List Char)
  | [] => [[]]
  | c :: cs =>
    if isSeparator c then [] :: splitOn isSeparator cs else consFirst c (splitOn isSeparator cs)

/-- The parts joined by a separator. -/
def join (separator : Char) : List (List Char) → List Char
  | [] => []
  | [part] => part
  | part :: parts => part ++ separator :: join separator parts

theorem consFirst_ne_nil (c : Char) (parts : List (List Char)) : consFirst c parts ≠ [] := by
  cases parts <;> simp [consFirst]

theorem splitOn_ne_nil (isSeparator : Char → Bool) (cs : List Char) :
    splitOn isSeparator cs ≠ [] := by
  cases cs with
  | nil => simp [splitOn]
  | cons c cs =>
    rw [splitOn]
    split
    · simp
    · exact consFirst_ne_nil _ _

theorem join_consFirst (separator c : Char) {parts : List (List Char)} (h : parts ≠ []) :
    join separator (consFirst c parts) = c :: join separator parts := by
  match parts, h with
  | [part], _ => rfl
  | part :: next :: rest, _ => simp [consFirst, join]

theorem consFirst_append (c : Char) {parts : List (List Char)} (h : parts ≠ [])
    (more : List (List Char)) : consFirst c (parts ++ more) = consFirst c parts ++ more := by
  match parts, h with
  | part :: parts, _ => rfl

/-- A text is split at each of its separators by itself. -/
theorem splitOn_append {isSeparator : Char → Bool} {separator : Char}
    (h : isSeparator separator = true) (cs more : List Char) :
    splitOn isSeparator (cs ++ separator :: more) =
      splitOn isSeparator cs ++ splitOn isSeparator more := by
  induction cs with
  | nil => simp [splitOn, h]
  | cons c cs ih =>
    rw [List.cons_append, splitOn, splitOn, ih]
    split
    · rfl
    · exact consFirst_append c (splitOn_ne_nil _ _) _

end MediaQuery.Split
