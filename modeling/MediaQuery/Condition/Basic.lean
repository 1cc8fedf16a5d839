import MediaQuery.Decimal.Notation

/-!
# Width conditions

A condition is what is kept of one entry of a media query list: a media type, and the least and the
greatest width at which it holds. Lengths keep their unit, but widths are compared with their plain
values, whatever the unit.
-/

namespace MediaQuery

/-- The units in which a width bound is written. -/
inductive LengthUnit where
  | px
  | em
deriving DecidableEq, Repr

/-- The letters of a unit. -/
def LengthUnit.text : LengthUnit → String
  | px => "px"
  | em => "em"

/-- A width with its unit. -/
structure WidthBound where
  value : Float
  unit : LengthUnit

/-- A bound as an author writes it: `600px`, `40.5em`. -/
def WidthBound.text (b : WidthBound) : String := Decimal.plain b.value ++ b.unit.text

/-- One entry of a media query list. -/
structure Condition where
  mediaType : String
  /-- Whether a width bound was given; without one the condition always holds. -/
  hasConstraint : Bool
  minWidth : Option WidthBound
  maxWidth : Option WidthBound

namespace Condition

/-- The condition that always holds, on every medium. -/
def all : Condition := ⟨"all", false, none, none⟩

/-- Whether a width is not below the lower bound. -/
def aboveMin (c : Condition) (width : Float) : Bool :=
  match c.minWidth with
  | some bound => decide (bound.value ≤ width)
  | none => true

/-- Whether a width is not above the upper bound. -/
def belowMax (c : Condition) (width : Float) : Bool :=
  match c.maxWidth with
  | some bound => decide (width ≤ bound.value)
  | none => true

/-- Whether the condition holds at a width; both bounds belong to the range. -/
def isActive (c : Condition) (width : Float) : Bool :=
  !c.hasConstraint || (c.aboveMin width && c.belowMax width)

@[simp] theorem isActive_all (width : Float) : all.isActive width = true := rfl

end Condition

end MediaQuery
