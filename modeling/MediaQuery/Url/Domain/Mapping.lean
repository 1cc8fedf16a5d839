import MediaQuery.Text.Composition
import MediaQuery.Url.Domain.MappingTable

/-!
# What characters stand for in a domain

Domains are written in many ways that mean the same: in capitals, in wide letters, with characters
that do not show. Each character of a domain stands for some others, which stand for themselves, or
may not stand in a domain at all.
-/

namespace MediaQuery.Url.Domain

/-- What a character stands for in a domain, if it may stand there. All of ASCII may; that some of
it may not stand in a host is for the host to say. -/
def meaning? (c : Char) : Option (List Char) :=
  if c.toNat < 0x80 then some [c.toLower]
  else
    match substituted.find? c, alternating.find? c with
    | some e, _ =>
      match Composition.charactersOf e.word with
      | [target] => some [Char.ofNat (target.toNat + (c.toNat - e.first))]
      | targets => some targets
    | none, some e =>
      some [if (c.toNat - e.first) % 2 == 0 then Char.ofNat (c.toNat + 1) else c]
    | none, none => if permitted.contains c then some [c] else none

/-- Whether a character may stand in a domain for itself. -/
def isPlain (c : Char) : Bool := meaning? c == some [c]

/-- The text that a domain stands for, in composed form. -/
def mapped? (cs : List Char) : Option (List Char) :=
  (cs.mapM meaning?).map fun parts =>
    let text := parts.flatten
    if text.all fun c => c.toNat < 0x80 then text else Composition.compose text

end MediaQuery.Url.Domain
