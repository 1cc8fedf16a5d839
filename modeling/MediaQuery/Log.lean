import MediaQuery.Condition.Basic
import MediaQuery.Css.Scan
import MediaQuery.Failure

/-!
# The log

What the engine tells about its work. An entry says what happened; its wording and how much it
matters follow from that.
-/

namespace MediaQuery.Log

/-- How much an entry matters. -/
inductive Level where
  | warn
  | debug
  | trace
deriving DecidableEq, Repr

/-- The name of a level. -/
def Level.name : Level → String
  | warn => "WARN"
  | debug => "DEBUG"
  | trace => "TRACE"

/-- The rank of a level: the more it matters, the lower. -/
def Level.rank : Level → Nat
  | warn => 0
  | debug => 1
  | trace => 2

/-- Something that happened. -/
inductive Entry where
  /-- A stylesheet ends within a media rule. -/
  | fault (fault : Css.Fault)
  /-- A stylesheet was read and gave some conditions. -/
  | parsed (conditions : Nat) (href : String)
  /-- A condition was tested at a width. -/
  | tested (condition : Condition) (width : Float) (active : Bool)
  /-- A pass found some media types active. -/
  | pass (width : Float) (mediaTypes : Nat)
  /-- Style elements took the place of others. -/
  | replaced (old new : Nat)
  /-- The document has no element that style elements could go into. -/
  | noHead
  /-- A live query changed. -/
  | changed (media : String) (isMatching : Bool)
  /-- A resize was put off. -/
  | deferred (due : Nat)
  | crossOrigin (href : String)
  | noSource (href : String)
  | unreadable (failure : Failure)

/-- A bound, or its absence, as a field of an entry. -/
def boundField : Option WidthBound → String
  | none => "None"
  | some bound =>
    "Some(WidthBound \x7b value: " ++ Decimal.exact bound.value ++ ", unit: " ++
      (match bound.unit with
        | .px => "Px"
        | .em => "Em") ++ " \x7d)"

namespace Entry

/-- How much an entry matters. -/
def level : Entry → Level
  | fault _ | noHead | unreadable _ => .warn
  | parsed .. | pass .. | replaced .. | changed .. | crossOrigin _ | noSource _ => .debug
  | tested .. | deferred _ => .trace

/-- The wording of an entry. -/
def message : Entry → String
  | fault (.noBlock start) => "@media rule at byte " ++ toString start ++ " has no block"
  | fault (.unterminated start) => "unterminated @media block at byte " ++ toString start
  | parsed conditions href =>
    "parsed " ++ toString conditions ++ " conditional rule(s) from `" ++ href ++ "`"
  | tested condition width active =>
    condition.mediaType ++ " min=" ++ boundField condition.minWidth ++ " max=" ++
      boundField condition.maxWidth ++ " at " ++ Decimal.plain width ++ "px: " ++ toString active
  | pass width mediaTypes =>
    "pass at " ++ Decimal.plain width ++ "px: " ++ toString mediaTypes ++ " active media type(s)"
  | replaced old new =>
    "replaced " ++ toString old ++ " injected style element(s) with " ++ toString new
  | noHead => "document has no head; nothing injected"
  | changed media isMatching => "media query `" ++ media ++ "` now " ++ toString isMatching
  | deferred due => "resize deferred until " ++ toString due ++ "ms"
  | crossOrigin href => "skipping cross-origin stylesheet `" ++ href ++ "`"
  | noSource href => "no source for stylesheet `" ++ href ++ "`"
  | unreadable failure => failure.message ++ ": " ++ failure.causeMessage

end Entry

/-- The entries that matter at least as much as a level says. -/
def atLeast (level : Level) (entries : List Entry) : List Entry :=
  entries.filter fun e => e.level.rank ≤ level.rank

end MediaQuery.Log
