import MediaQuery.Text.Ascii
import MediaQuery.Url.Address
import MediaQuery.Url.Domain

/-!
# Hosts

The part of a URL that names a machine: a domain, or an address. In the schemes that the web is made
of, a domain is put into its one form in ASCII, and one that looks like a number has to be an
address. In all others a host is a name that means nothing here.
-/

namespace MediaQuery.Url

/-- A host. -/
inductive Host where
  | name (text : List Char)
  | v4 (address : Nat)
  | v6 (pieces : List Nat)
deriving DecidableEq, Repr

namespace Host

/-- The text of a host; an address of version six stands in brackets. -/
def text : Host → List Char
  | name text => text
  | v4 address => Address.v4Text address
  | v6 pieces => '[' :: Address.v6Text pieces ++ [']']

/-- Whether a character can not stand in a name that means nothing here. -/
def isForbidden (c : Char) : Bool :=
  c == '\x00' || c == '\t' || c == '\n' || c == '\r' ||
    [' ', '#', '/', ':', '<', '>', '?', '@', '[', '\\', ']', '^', '|'].contains c

/-- Whether a character can not stand in a domain. -/
def isForbiddenInDomain (c : Char) : Bool :=
  isForbidden c || c.toNat < 0x20 || c == '%' || c == '\x7f'

/-- The bytes that a text stands for: `%` and two hexadecimal digits are one byte, anything else is
itself. -/
def percentDecode : List Char → List UInt8
  | '%' :: high :: low :: rest =>
    match Ascii.hexValue high, Ascii.hexValue low with
    | some h, some l => UInt8.ofNat (16 * h + l) :: percentDecode rest
    | _, _ => '%'.toUInt8 :: percentDecode (high :: low :: rest)
  | c :: cs => String.utf8EncodeChar c ++ percentDecode cs
  | [] => []

/-- The way a byte is written where it can not stand for itself. -/
def percentEncode (byte : UInt8) : List Char :=
  ['%', (Nat.digitChar (byte.toNat / 16)).toUpper, (Nat.digitChar (byte.toNat % 16)).toUpper]

/-- A name in which everything but printing ASCII is percent-encoded. -/
def encodeName (name : List Char) : List Char :=
  name.flatMap fun c =>
    if 0x20 ≤ c.toNat ∧ c.toNat < 0x7F then [c] else (String.utf8EncodeChar c).flatMap percentEncode

/-- The text between brackets that make up the whole of a text. -/
def bracketed? (cs : List Char) : Option (List Char) :=
  if cs.getLast? == some ']' then some (cs.tail.dropLast) else none

/-- Reads an address of version six in brackets. -/
def ofBrackets? (cs : List Char) : Option Host :=
  (bracketed? cs).bind fun inner => (Address.v6? inner).map v6

/-- Reads a host of a scheme that means nothing here. -/
def ofName? (cs : List Char) : Option Host :=
  if cs.head? == some '[' then ofBrackets? cs
  else if cs.any isForbidden then none
  else some (name (encodeName cs))

/-- The name or the address that a domain in ASCII is. -/
def ofAscii? (domain : List Char) : Option Host :=
  if domain.isEmpty || domain.any isForbiddenInDomain then none
  else if Address.isNumeric domain then (Address.v4? domain).map v4
  else some (name domain)

/-- Reads a host of a scheme of the web. -/
def ofDomain? (cs : List Char) : Option Host :=
  if cs.head? == some '[' then ofBrackets? cs
  else do
    let text ← String.fromUTF8? ⟨(percentDecode cs).toArray⟩
    let domain ← Domain.toAscii? text.toList
    ofAscii? domain

end Host

end MediaQuery.Url
