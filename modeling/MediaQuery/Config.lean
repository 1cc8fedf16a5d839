/-!
# Settings

What a host can choose about an engine.
-/

namespace MediaQuery

/-- The settings of an engine. -/
structure Config where
  /-- How many milliseconds after a pass a resize is put off. -/
  throttleMs : Nat
  /-- Whether the page is shown by something that knows media queries itself, so that no stylesheet
  needs to be loaded. -/
  native : Bool
  /-- The host that the page was loaded from. -/
  pageHost : Option String
deriving DecidableEq, Repr

/-- The window in which resizes are gathered if nothing else is chosen. -/
def Config.defaultThrottleMs : Nat := 30

/-- The settings if nothing is chosen. -/
def Config.default : Config := ⟨Config.defaultThrottleMs, false, none⟩

end MediaQuery
