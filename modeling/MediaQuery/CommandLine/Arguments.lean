import MediaQuery.Config
import MediaQuery.Decimal.Read

/-!
# Arguments of the command line

A call names one input file and may set options. The value of an option is the next argument, which
must not look like an option, or is attached to the option itself. Behind two hyphens nothing is an
option. Only queries may be given more than once.
-/

namespace MediaQuery.CommandLine

/-- What a call asks for. -/
structure Options where
  /-- The path of the document. -/
  input : String
  /-- The width of the viewport. -/
  width : Float
  /-- The width of the body, if it is not that of the viewport. -/
  bodyWidth : Option Float
  /-- Live queries to report on, in order. -/
  queries : List String
  throttleMs : Nat
  /-- The host that the page is served from. -/
  host : Option String

/-- The width of the viewport if none is given. -/
def defaultWidth : Float := 1024.0

/-- What is wrong with a call. -/
inductive UsageError where
  | unknownOption (argument : String)
  | missingValue (option : String)
  | badValue (option value : String)
  | repeated (option : String)
  | unexpected (argument : String)
  | missingInput
deriving DecidableEq, Repr

/-- The wording of what is wrong. -/
def UsageError.message : UsageError → String
  | unknownOption argument => "unknown option '" ++ argument ++ "'"
  | missingValue option => "option '" ++ option ++ "' needs a value"
  | badValue option value => "'" ++ value ++ "' is no value for option '" ++ option ++ "'"
  | repeated option => "option '" ++ option ++ "' is given twice"
  | unexpected argument => "unexpected argument '" ++ argument ++ "'"
  | missingInput => "no input file is named"

/-- The options that take a value. -/
inductive Setting where
  | width
  | bodyWidth
  | query
  | throttleMs
  | host
deriving DecidableEq, Repr

/-- The long name of a setting. -/
def Setting.name : Setting → String
  | width => "width"
  | bodyWidth => "body-width"
  | query => "query"
  | throttleMs => "throttle-ms"
  | host => "host"

/-- All settings. -/
def Setting.all : List Setting := [width, bodyWidth, query, throttleMs, host]

/-- The setting of a long name. -/
def Setting.ofName? (name : List Char) : Option Setting :=
  all.find? fun s => s.name.toList == name

/-- The setting of a letter. -/
def Setting.ofLetter? : Char → Option Setting
  | 'w' => some width
  | 'q' => some query
  | _ => none

/-- An argument, taken by itself. -/
inductive Argument where
  /-- No option. -/
  | plain (text : String)
  /-- Nothing behind this is an option. -/
  | endOfOptions
  | help
  /-- An option, with the value that is attached to it. -/
  | setting (setting : Setting) (value : Option String)
  | unknown
deriving DecidableEq, Repr

/-- Reads what stands behind two hyphens. -/
def Argument.ofLong (cs : List Char) : Argument :=
  let name := cs.takeWhile (· != '=')
  let value :=
    match cs.dropWhile (· != '=') with
    | _ :: value => some (String.ofList value)
    | [] => none
  match Setting.ofName? name, value with
  | some s, value => setting s value
  | none, none => if name == "help".toList then help else unknown
  | none, some _ => unknown

/-- Reads what stands behind one hyphen: a letter, and perhaps a value, with an equals sign between
them or not. -/
def Argument.ofShort (letter : Char) (rest : List Char) : Argument :=
  match Setting.ofLetter? letter, rest with
  | some s, [] => setting s none
  | some s, '=' :: value => setting s (some (String.ofList value))
  | some s, value => setting s (some (String.ofList value))
  | none, _ => if letter == 'h' then help else unknown

/-- Reads an argument by itself. -/
def Argument.ofText (text : String) : Argument :=
  match text.toList with
  | ['-', '-'] => endOfOptions
  | '-' :: '-' :: cs => ofLong cs
  | '-' :: letter :: rest => ofShort letter rest
  | _ => plain text

/-- The settings that a call has made so far. -/
structure Draft where
  input : Option String
  width : Option Float
  bodyWidth : Option Float
  queries : List String
  throttleMs : Option Nat
  host : Option String

namespace Draft

/-- Before the first argument. -/
def empty : Draft := ⟨none, none, none, [], none, none⟩

/-- The numbers that a time in milliseconds can be. -/
def timeLimit : Nat := Nat.pow 2 64

/-- Reads a whole number, which may have a plus sign. -/
def time? (text : String) : Option Nat :=
  let digits :=
    match text.toList with
    | '+' :: cs => cs
    | cs => cs
  if digits.isEmpty || !digits.all Char.isDigit then none
  else (some (Decimal.ofDigits digits)).filter (· < timeLimit)

/-- Fills a place that must be empty before, with a value that must be there. -/
def fill {α : Type} (s : Setting) (text : String) (place value : Option α)
    (put : Option α → Draft) : Except UsageError Draft :=
  match place, value with
  | some _, _ => .error (.repeated s.name)
  | none, none => .error (.badValue s.name text)
  | none, some x => .ok (put (some x))

/-- Takes in a setting. -/
def set (d : Draft) (s : Setting) (text : String) : Except UsageError Draft :=
  match s with
  | .width => fill s text d.width (Decimal.full? text.toList) fun x => { d with width := x }
  | .bodyWidth =>
    fill s text d.bodyWidth (Decimal.full? text.toList) fun x => { d with bodyWidth := x }
  | .query => .ok { d with queries := d.queries ++ [text] }
  | .throttleMs => fill s text d.throttleMs (time? text) fun x => { d with throttleMs := x }
  | .host => fill s text d.host (some text) fun x => { d with host := x }

/-- Takes in an argument that is no option. -/
def setInput (d : Draft) (text : String) : Except UsageError Draft :=
  if d.input.isSome || text.isEmpty then .error (.unexpected text)
  else .ok { d with input := some text }

/-- The options of a call that is complete. -/
def finish (d : Draft) : Except UsageError Options :=
  match d.input with
  | none => .error .missingInput
  | some input =>
    .ok ⟨input, d.width.getD defaultWidth, d.bodyWidth, d.queries,
      d.throttleMs.getD Config.default.throttleMs, d.host⟩

end Draft

/-- What a call comes to. -/
inductive Request where
  | help
  | run (options : Options)

/-- Reads the arguments of a call, which adds to a draft. -/
def readArguments (d : Draft) : List String → Except UsageError Request
  | [] => d.finish.map .run
  | text :: rest =>
    match Argument.ofText text with
    | .plain text => do readArguments (← d.setInput text) rest
    | .endOfOptions => do return .run (← (← rest.foldlM Draft.setInput d).finish)
    | .help => .ok .help
    | .unknown => .error (.unknownOption text)
    | .setting s (some value) => do readArguments (← d.set s value) rest
    | .setting s none =>
      match rest with
      | [] => .error (.missingValue s.name)
      | next :: rest =>
        match Argument.ofText next with
        | .plain value => do readArguments (← d.set s value) rest
        | _ => .error (.missingValue s.name)

/-- Reads the arguments of a call. -/
def Request.ofArguments (arguments : List String) : Except UsageError Request :=
  readArguments Draft.empty arguments

end MediaQuery.CommandLine
