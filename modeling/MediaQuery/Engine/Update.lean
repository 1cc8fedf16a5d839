import MediaQuery.Engine.Basic
import MediaQuery.Files.Source

/-!
# Loading stylesheets

The stylesheets that a document links to are asked for in the order of the document, each reference
once in the life of an engine. A sheet that can not be had is passed over; a listener that fails
while a sheet is taken in ends the loading.
-/

namespace MediaQuery.Engine

variable {σ : Type}

/-- Loads the stylesheets of some links, after those in `asked`. -/
def load (source : Source) (base : Option String) :
    (links : List Dom.StylesheetLink) → (asked : List String) → Engine σ → Outcome σ Unit
  | [], _, e => .pure e ()
  | link :: rest, asked, e =>
    if e.parsedSheets.contains link.href then load source base rest asked e
    else if !Url.isSameOrigin link.href base e.config.pageHost then
      (load source base rest asked e).logFirst [.crossOrigin link.href]
    else
      let e := { e with parsedSheets := e.parsedSheets ++ [link.href] }
      let later := load source base rest (asked ++ [link.href])
      let outcome :=
        match source.fetch asked link.href with
        | .ok (some text) => (e.parse text link.href link.media).andThen fun e _ => later e
        | .ok none => (later e).logFirst [.noSource link.href]
        | .error failure => (later e).logFirst [.unreadable failure]
      let fetched := link.href :: outcome.report.fetched
      { outcome with report := { outcome.report with fetched } }

/-- Loads the stylesheets that were not asked for before, or runs a pass if the page is shown by
something that knows media queries itself. -/
def update (e : Engine σ) (source : Source) : Outcome σ Unit :=
  if e.config.native then e.apply
  else load source e.document.baseHref? e.document.stylesheetLinks [] e

end MediaQuery.Engine
