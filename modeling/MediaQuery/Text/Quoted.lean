import MediaQuery.Text.Invisible

/-!
# Quoted text

Text between double quotes, as it is shown to a reader: quotes, backslashes and what does not show
by itself are written with a backslash.
-/

namespace MediaQuery.Quoted

/-- The way a character is written by its number. -/
def byNumber (c : Char) : List Char :=
  "\\u\x7b".toList ++ Nat.toDigits 16 c.toNat ++ ['\x7d']

/-- The way a character is written. -/
def writeChar (c : Char) : List Char :=
  if c == '"' || c == '\\' then ['\\', c]
  else if c == '\x00' then ['\\', '0']
  else if c == '\t' then ['\\', 't']
  else if c == '\n' then ['\\', 'n']
  else if c == '\r' then ['\\', 'r']
  else if Invisible.isInvisible c then byNumber c
  else [c]

/-- The way a text is written. -/
def write (text : String) : String :=
  String.ofList ('"' :: text.toList.flatMap writeChar ++ ['"'])

end MediaQuery.Quoted
