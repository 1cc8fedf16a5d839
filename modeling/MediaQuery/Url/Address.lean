import MediaQuery.Text.Ascii
import MediaQuery.Text.Split

/-!
# Internet addresses

Hosts that are numbers. An address of version four is read from up to four numbers, each decimal,
octal behind a zero or hexadecimal behind `0x`, of which the last fills what the others leave; it
is written as four decimal bytes. An address of version six is eight pieces of sixteen bits; its
longest run of zero pieces is left out when it is written.
-/

namespace MediaQuery.Url.Address

/-! ## Version four -/

/-- The value of digits in a base, if all of them are digits of it. -/
def value? (base : Nat) (digits : List Char) : Option Nat :=
  digits.foldlM (fun total c =>
    match Ascii.hexValue c with
    | some d => if d < base then some (base * total + d) else none
    | none => none) 0

/-- Reads a number: hexadecimal behind `0x`, octal behind a zero, or else decimal. A lone `0x` is
zero. -/
def number? : List Char → Option Nat
  | [] => none
  | '0' :: 'x' :: digits => value? 16 digits
  | '0' :: 'X' :: digits => value? 16 digits
  | ['0'] => some 0
  | '0' :: digits => value? 8 digits
  | digits => value? 10 digits

/-- The parts of a domain between its dots, without an empty one at the end. -/
def parts (domain : List Char) : List (List Char) :=
  let parts := Split.splitOn (· == '.') domain
  if 1 < parts.length && parts.getLast? == some [] then parts.dropLast else parts

/-- Whether a domain is to be read as an address: its last part is a number, or digits alone. -/
def isNumeric (domain : List Char) : Bool :=
  match (parts domain).getLast? with
  | some last => !last.isEmpty && (last.all Char.isDigit || (number? last).isSome)
  | none => false

/-- The value of an address of version four from its numbers. -/
def combine? : List Nat → Option Nat
  | [] => none
  | numbers =>
    let leading := numbers.dropLast
    let last := numbers.getLast?.getD 0
    let room := Nat.pow 256 (4 - leading.length)
    if numbers.length ≤ 4 && leading.all (· < 256) && last < room then
      some (leading.foldl (fun total n => 256 * total + n) 0 * room + last)
    else none

/-- Reads an address of version four. -/
def v4? (domain : List Char) : Option Nat := ((parts domain).mapM number?).bind combine?

/-- Writes an address of version four. -/
def v4Text (address : Nat) : List Char :=
  let byte := fun i => (Nat.repr (address / Nat.pow 256 i % 256)).toList
  Split.join '.' [byte 3, byte 2, byte 1, byte 0]

/-! ## Version six -/

/-- A piece: one to four hexadecimal digits. -/
def piece? (digits : List Char) : Option Nat :=
  if digits.isEmpty || 4 < digits.length then none else value? 16 digits

/-- A byte in decimal, without leading zeros. -/
def byte? (digits : List Char) : Option Nat :=
  match digits with
  | [] => none
  | ['0'] => some 0
  | '0' :: _ => none
  | _ => if digits.all Char.isDigit then (value? 10 digits).filter (· < 256) else none

/-- The two pieces of an address of version four that ends one of version six. -/
def dotted? (text : List Char) : Option (List Nat) :=
  match (Split.splitOn (· == '.') text).mapM byte? with
  | some [a, b, c, d] => some [256 * a + b, 256 * c + d]
  | _ => none

/-- Reads pieces between colons, of which the last may be dotted. -/
def pieces? : List (List Char) → Option (List Nat)
  | [] => some []
  | [last] => if last.contains '.' then dotted? last else (piece? last).map ([·])
  | group :: rest => do return (← piece? group) :: (← pieces? rest)

/-- The groups of one side of the gap; a side may be empty. -/
def groups (text : List Char) : List (List Char) :=
  if text.isEmpty then [] else Split.splitOn (· == ':') text

/-- The texts before and behind the first two colons in a row. -/
def splitGap? : List Char → Option (List Char × List Char)
  | ':' :: ':' :: behind => some ([], behind)
  | c :: cs => (splitGap? cs).map fun (before, behind) => (c :: before, behind)
  | [] => none

/-- Reads an address of version six. A gap stands for at least one zero piece. -/
def v6? (text : List Char) : Option (List Nat) :=
  match splitGap? text with
  | none => (pieces? (groups text)).filter (·.length == 8)
  | some (before, behind) => do
    let left ← (groups before).mapM piece?
    let right ← pieces? (groups behind)
    let count := left.length + right.length
    if count ≤ 7 then some (left ++ List.replicate (8 - count) 0 ++ right) else none

/-- The start and the length of the first of the longest runs of zeros, in pieces from `position`
on. -/
def longestZeros : (position : Nat) → List Nat → Nat × Nat
  | _, [] => (0, 0)
  | position, p :: rest =>
    let here := ((p :: rest).takeWhile (· == 0)).length
    let later := longestZeros (position + 1) rest
    if here < later.2 then later else (position, here)

/-- Writes an address of version six. A single zero piece is written. -/
def v6Text (pieces : List Nat) : List Char :=
  let write := fun (ps : List Nat) => Split.join ':' (ps.map fun p => Nat.toDigits 16 p)
  let (start, length) := longestZeros 0 pieces
  if length < 2 then write pieces
  else write (pieces.take start) ++ [':', ':'] ++ write (pieces.drop (start + length))

end MediaQuery.Url.Address
