import MediaQuery.Text.Ascii

/-!
# Reading by byte

A text may also be read through the bytes of its UTF-8 form: from index to index, a byte at a time,
with pieces of the text cut out between two of them. A reader of this kind can go wrong in ways that
one that goes from character to character can not. `Checked` is the answer of a reader that looks
before each step whether it may be taken, and gives up with a `Slip` if it may not.

A byte is compared with the character that has its number, which is no ASCII character unless the
byte stands for one.
-/

namespace MediaQuery.Bytes

/-- What a reader of bytes may not do. -/
inductive Slip where
  /-- To ask for bytes behind the last one. -/
  | outOfRange
  /-- To cut a text behind its end, in front of where the piece begins, or inside a character. -/
  | offBoundary
  /-- To count below zero. -/
  | underflow
  /-- To take bytes for a text that are none. -/
  | notText
  /-- To go on with a loop from where it already is. -/
  | stuck
deriving DecidableEq, Repr

/-- An answer, unless the reader slips on the way to it. -/
abbrev Checked (α : Type) := Except Slip α

/-- The bytes of a text. -/
def utf8 (cs : List Char) : List UInt8 := cs.flatMap String.utf8EncodeChar

/-- The character with the number of a byte. -/
def asChar (b : UInt8) : Char := Char.ofUInt8 b

/-- The byte at an index. -/
def byteAt (bytes : List UInt8) (i : Nat) : Checked UInt8 :=
  match bytes[i]? with
  | some b => .ok b
  | none => .error .outOfRange

/-- The bytes from an index up to another one. -/
def slice (bytes : List UInt8) (start stop : Nat) : Checked (List UInt8) :=
  if start ≤ stop ∧ stop ≤ bytes.length then .ok ((bytes.drop start).take (stop - start))
  else .error .outOfRange

/-- The text that some bytes are. -/
def decode (bytes : List UInt8) : Checked (List Char) :=
  match String.fromUTF8? bytes.toByteArray with
  | some text => .ok text.toList
  | none => .error .notText

/-- One less. -/
def decrement : Nat → Checked Nat
  | 0 => .error .underflow
  | n + 1 => .ok n

/-! ## Cutting texts -/

/-- A text from a byte on. -/
def textFrom : List Char → Nat → Checked (List Char)
  | cs, 0 => .ok cs
  | [], _ + 1 => .error .offBoundary
  | c :: cs, i + 1 =>
    if c.utf8Size ≤ i + 1 then textFrom cs (i + 1 - c.utf8Size) else .error .offBoundary

/-- A text up to a byte. -/
def textTo : List Char → Nat → Checked (List Char)
  | _, 0 => .ok []
  | [], _ + 1 => .error .offBoundary
  | c :: cs, i + 1 =>
    if c.utf8Size ≤ i + 1 then (textTo cs (i + 1 - c.utf8Size)).map (c :: ·)
    else .error .offBoundary

/-- The piece of a text from a byte up to another one. -/
def cut (cs : List Char) (start stop : Nat) : Checked (List Char) := do
  let rest ← textFrom cs start
  if start ≤ stop then textTo rest (stop - start) else .error .offBoundary

/-- A text of five bytes, cut between its characters, inside of one, and behind its end. -/
example : cut ['a', 'é', 'b', 'c'] 1 4 = .ok ['é', 'b'] ∧
    cut ['a', 'é', 'b', 'c'] 2 4 = .error .offBoundary ∧
    cut ['a', 'é', 'b', 'c'] 1 6 = .error .offBoundary := ⟨rfl, rfl, rfl⟩

/-! ## Loops over bytes -/

/-- The first index from one on whose byte is not of a class. -/
def skipWhile (p : Char → Bool) (bytes : List UInt8) (i : Nat) : Nat :=
  if h : i < bytes.length then
    if p (asChar bytes[i]) then skipWhile p bytes (i + 1) else i
  else i
termination_by bytes.length - i

/-- Whether a word stands at an index, in any letter case. -/
def spells (bytes : List UInt8) (i : Nat) (word : List Char) : Bool :=
  match slice bytes i (i + word.length) with
  | .ok spelled => Ascii.sameLetters (spelled.map asChar) word
  | .error _ => false

end MediaQuery.Bytes
