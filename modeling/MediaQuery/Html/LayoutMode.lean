import MediaQuery.Dom.Document
import MediaQuery.Html.Token

/-!
# Layout modes

Which way of laying out a page a document type declaration asks for. Old declarations ask for the
layout of old browsers, a few transitional ones for something in between.
-/

namespace MediaQuery.Html

/-- Starts of public identifiers that ask for old layout. -/
def oldPublicIds : List String :=
  ["+//silmaril//dtd html pro v0r11 19970101//",
    "-//as//dtd html 3.0 aswedit + extensions//",
    "-//advasoft ltd//dtd html 3.0 aswedit + extensions//",
    "-//ietf//dtd html 2.0 level 1//",
    "-//ietf//dtd html 2.0 level 2//",
    "-//ietf//dtd html 2.0 strict level 1//",
    "-//ietf//dtd html 2.0 strict level 2//",
    "-//ietf//dtd html 2.0 strict//",
    "-//ietf//dtd html 2.0//",
    "-//ietf//dtd html 2.1e//",
    "-//ietf//dtd html 3.0//",
    "-//ietf//dtd html 3.2 final//",
    "-//ietf//dtd html 3.2//",
    "-//ietf//dtd html 3//",
    "-//ietf//dtd html level 0//",
    "-//ietf//dtd html level 1//",
    "-//ietf//dtd html level 2//",
    "-//ietf//dtd html level 3//",
    "-//ietf//dtd html strict level 0//",
    "-//ietf//dtd html strict level 1//",
    "-//ietf//dtd html strict level 2//",
    "-//ietf//dtd html strict level 3//",
    "-//ietf//dtd html strict//",
    "-//ietf//dtd html//",
    "-//metrius//dtd metrius presentational//",
    "-//microsoft//dtd internet explorer 2.0 html strict//",
    "-//microsoft//dtd internet explorer 2.0 html//",
    "-//microsoft//dtd internet explorer 2.0 tables//",
    "-//microsoft//dtd internet explorer 3.0 html strict//",
    "-//microsoft//dtd internet explorer 3.0 html//",
    "-//microsoft//dtd internet explorer 3.0 tables//",
    "-//netscape comm. corp.//dtd html//",
    "-//netscape comm. corp.//dtd strict html//",
    "-//o'reilly and associates//dtd html 2.0//",
    "-//o'reilly and associates//dtd html extended 1.0//",
    "-//o'reilly and associates//dtd html extended relaxed 1.0//",
    "-//softquad software//dtd hotmetal pro 6.0::19990601::extensions to html 4.0//",
    "-//softquad//dtd hotmetal pro 4.0::19971010::extensions to html 4.0//",
    "-//spyglass//dtd html 2.0 extended//",
    "-//sq//dtd html 2.0 hotmetal + extensions//",
    "-//sun microsystems corp.//dtd hotjava html//",
    "-//sun microsystems corp.//dtd hotjava strict html//",
    "-//w3c//dtd html 3 1995-03-24//",
    "-//w3c//dtd html 3.2 draft//",
    "-//w3c//dtd html 3.2 final//",
    "-//w3c//dtd html 3.2//",
    "-//w3c//dtd html 3.2s draft//",
    "-//w3c//dtd html 4.0 frameset//",
    "-//w3c//dtd html 4.0 transitional//",
    "-//w3c//dtd html experimental 19960712//",
    "-//w3c//dtd html experimental 970421//",
    "-//w3c//dtd w3 html//",
    "-//w3o//dtd w3 html 3.0//",
    "-//webtechs//dtd mozilla html 2.0//",
    "-//webtechs//dtd mozilla html//"]

/-- Public identifiers that ask for old layout. -/
def oldWholePublicIds : List String :=
  ["-//w3o//dtd w3 html strict 3.0//en//", "-/w3c/dtd html 4.0 transitional/en", "html"]

/-- System identifiers that ask for old layout. -/
def oldSystemIds : List String := ["http://www.ibm.com/data/dtd/v11/ibmxhtml1-transitional.dtd"]

/-- Starts of public identifiers that ask for something in between. -/
def transitionalPublicIds : List String :=
  ["-//w3c//dtd xhtml 1.0 frameset//", "-//w3c//dtd xhtml 1.0 transitional//"]

/-- Starts of public identifiers that ask for something in between with a system identifier, and for
old layout without one. -/
def openPublicIds : List String :=
  ["-//w3c//dtd html 4.01 frameset//", "-//w3c//dtd html 4.01 transitional//"]

namespace Declaration

/-- Whether a public identifier begins with one of several texts. -/
def beginsWith (id : Option String) (starts : List String) : Bool :=
  id.any fun id => starts.any fun start => start.toList.isPrefixOf id.toList

/-- The layout mode that a document type declaration asks for. -/
def mode (d : Declaration) : Dom.Mode :=
  let publicId := d.publicId.map Ascii.lowerString
  let systemId := d.systemId.map Ascii.lowerString
  if d.broken || d.name != some "html" then .quirks
  else if publicId.any oldWholePublicIds.contains || systemId.any oldSystemIds.contains ||
      beginsWith publicId oldPublicIds then .quirks
  else if beginsWith publicId transitionalPublicIds then .limitedQuirks
  else if beginsWith publicId openPublicIds then
    if systemId.isSome then .limitedQuirks else .quirks
  else .noQuirks

/-- The document type that a declaration declares. -/
def toDoctype (d : Declaration) : Dom.Doctype :=
  ⟨d.name.getD "", d.publicId.getD "", d.systemId.getD ""⟩

end Declaration

end MediaQuery.Html
