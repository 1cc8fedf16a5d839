/-!
# The viewport

The widths that a page can be measured by, and the one that counts. The root element is measured,
except in documents laid out like those of old, where the body is; either stands in for the other
when it measures nothing.
-/

namespace MediaQuery

/-- The client widths of the root element and of the body. -/
structure Viewport where
  root : Float
  body : Float

namespace Viewport

/-- A viewport in which root and body are equally wide. -/
def ofWidth (width : Float) : Viewport := ⟨width, width⟩

/-- The viewport with another body width. -/
def withBody (v : Viewport) (width : Float) : Viewport := { v with body := width }

/-- The width that counts; `byBody` says that the document is measured by its body. -/
def effectiveWidth (v : Viewport) (byBody : Bool) : Float :=
  if !byBody && v.root != 0.0 then v.root else if v.body != 0.0 then v.body else v.root

end Viewport

end MediaQuery
