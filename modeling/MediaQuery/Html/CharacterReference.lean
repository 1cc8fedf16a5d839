import MediaQuery.Html.NamedCharacters

/-!
# Character references

What an ampersand, and the name or number behind it, stands for. A name is matched as far as it
reaches: `&notit` is the character of `not` followed by `it`. In an attribute value a name without
its semicolon is left alone if a letter, a digit or an equals sign follows, so that the parameters
of a URL survive.
-/

namespace MediaQuery.Html

/-- The characters for the numbers 128 to 159, which stand for those of an older encoding. -/
def legacyCharacters : List Nat :=
  [0x20AC, 0x81, 0x201A, 0x0192, 0x201E, 0x2026, 0x2020, 0x2021, 0x02C6, 0x2030, 0x0160, 0x2039,
    0x0152, 0x8D, 0x017D, 0x8F, 0x90, 0x2018, 0x2019, 0x201C, 0x201D, 0x2022, 0x2013, 0x2014,
    0x02DC, 0x2122, 0x0161, 0x203A, 0x0153, 0x9D, 0x017E, 0x0178]

/-- The character that a number stands for. Zero, surrogates and numbers beyond the last character
stand for the replacement character. -/
def numberedCharacter (n : Nat) : Char :=
  if n = 0 ∨ n > 0x10FFFF ∨ (0xD800 ≤ n ∧ n ≤ 0xDFFF) then '\ufffd'
  else if 0x80 ≤ n ∧ n ≤ 0x9F then Char.ofNat ((legacyCharacters[n - 0x80]?).getD n)
  else Char.ofNat n

/-- The number that digits of a base write. -/
def numberOf (base : Nat) (ds : List Char) : Nat :=
  ds.foldl (fun n d => base * n + (Ascii.hexValue d).getD 0) 0

/-- The longest name at the start of a text, at most `size` characters long: the characters that it
stands for, whether it ends in a semicolon, and the text behind it. -/
def longestNamed? (cs : List Char) : (size : Nat) → Option (List Char × Bool × List Char)
  | 0 => none
  | size + 1 =>
    let name := cs.take (size + 1)
    match namedCharacters[String.ofList name]? with
    | some characters => some (characters, name.getLast? == some ';', cs.drop (size + 1))
    | none => longestNamed? cs size

/-- What `&` and the letters and digits `name` stand for, where `next` is the character behind them
and `inValue` says that they stand in an attribute value. The flag says that `next` belongs to the
reference. -/
def resolveNamed (name : List Char) (next : Option Char) (inValue : Bool) : List Char × Bool :=
  let literal := ('&' :: name, false)
  let closed := next == some ';'
  let whole := if closed then name ++ [';'] else name
  match longestNamed? whole (min whole.length longestName) with
  | none => literal
  | some (characters, true, _) => (characters, true)
  | some (characters, false, rest) =>
    let follower := if rest.isEmpty then next else rest.head?
    if inValue && follower.any (fun c => c == '=' || c.isAlphanum) then literal
    else (characters ++ if closed then rest.dropLast else rest, false)

end MediaQuery.Html
