import MediaQuery.CommandLine.Arguments
import MediaQuery.Engine.Update
import MediaQuery.Html.Parse

/-!
# The command line

A call reads a document, applies the rules of the stylesheets that it links to, reports on the live
queries that it was asked about, and writes the document. Stylesheets are read from the directory of
the document; one that can not be read is passed over.
-/

namespace MediaQuery.CommandLine

/-- What a call leaves behind. -/
structure Output where
  code : Nat
  stdout : String
  stderr : String
deriving DecidableEq, Repr

/-- What the program says about itself. -/
def intro : String := "\n    respond - min/max-width media queries for engines without them\n\n"

/-- How the program is called. -/
def usage : String :=
  "Usage: respond [-w|--width WIDTH] [--body-width WIDTH] [-q|--query QUERY]...\n" ++
  "               [--throttle-ms TIME] [--host HOST] INPUT\n"

/-- The directory of a file, with a slash behind it; empty for a file without one. -/
def directoryOf (path : String) : String :=
  String.ofList (path.toList.reverse.dropWhile (· != '/')).reverse

/-- The engine for a document, before its first pass. -/
def engine (options : Options) (html : String) : Engine Unit :=
  let viewport := Viewport.ofWidth options.width
  let viewport :=
    match options.bodyWidth with
    | some width => viewport.withBody width
    | none => viewport
  (Engine.ofDocument (Html.parse html) viewport 0 ()).withConfig
    { Config.default with throttleMs := options.throttleMs, pageHost := options.host }

/-- The line that reports on a live query. -/
def reportLine (view : QueryView) : String :=
  view.media ++ " -> " ++ toString view.isMatching ++ "\n"

/-- Registers live queries, and gives the lines that report on them. -/
def reportAll (e : Engine Unit) : (queries : List String) → String × Except Failure (Engine Unit)
  | [] => ("", .ok e)
  | media :: rest =>
    let outcome := e.matchMedia media
    match outcome.result with
    | .error failure => ("", .error failure)
    | .ok number =>
      let line := ((outcome.engine.shared.queries[number]?).map fun q => reportLine q.view).getD ""
      let (lines, result) := reportAll outcome.engine rest
      (line ++ lines, result)

/-- The paths of the stylesheets that a call may ask for. -/
def sheetPaths (options : Options) (html : String) : List String :=
  let d := Html.parse html
  (d.stylesheetLinks.filter fun link =>
      Url.isSameOrigin link.href d.baseHref? options.host && !Url.namesHost link.href.toList).map
    fun link => Source.filePath (directoryOf options.input) link.href

/-- Applies the rules to a document and reports on the live queries. -/
def runOn (html : String) (options : Options) (read : String → Except ReadError String) : Output :=
  let fail := fun (lines : String) (failure : Failure) =>
    (⟨1, "", intro ++ lines ++ "Error: " ++ failure.message ++ "\n"⟩ : Output)
  let source := Source.ofDirectory read (directoryOf options.input)
  let outcome := (engine options html).update source
  match outcome.result with
  | .error failure => fail "" failure
  | .ok _ =>
    match reportAll outcome.engine options.queries with
    | (lines, .error failure) => fail lines failure
    | (lines, .ok e) => ⟨0, e.document.toHtml ++ "\n", intro ++ lines⟩

/-- Carries out a call, over a way to read files. -/
def run (arguments : List String) (read : String → Except ReadError String) : Output :=
  match Request.ofArguments arguments with
  | .error e => ⟨2, "", intro ++ "error: " ++ e.message ++ "\n\n" ++ usage⟩
  | .ok .help => ⟨0, usage, intro⟩
  | .ok (.run options) =>
    match read options.input with
    | .error cause =>
      ⟨1, "", intro ++ "Error reading HTML file " ++ options.input ++ ": " ++ cause.message ++ "\n"⟩
    | .ok html => runOn html options read

end MediaQuery.CommandLine
