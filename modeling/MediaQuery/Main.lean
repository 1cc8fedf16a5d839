import MediaQuery.CommandLine.Run

/-!
# The program

Reads the files that a call needs, and does what the call asks for.
-/

namespace MediaQuery.CommandLine

/-- The cause of a failed read, by the number that the system gives it, which may be negated. -/
def causeOf (code : UInt32) (e : IO.Error) : ReadError :=
  match min code.toNat (-code).toNat with
  | 2 => .notFound
  | 20 => .notDirectory
  | 21 => .isDirectory
  | 36 => .nameTooLong
  | _ => .other e.toString

/-- The number of an error, as the system counts them. -/
def codeOf : IO.Error → UInt32
  | .noFileOrDirectory _ code _ | .inappropriateType _ code _ | .invalidArgument _ code _ => code
  | _ => 0

/-- Reads a file. -/
def readFile (path : String) : IO (Except ReadError String) := do
  if path.toList.contains '\x00' then return .error .zeroInName
  try
    match String.fromUTF8? (← IO.FS.readBinFile path) with
    | some text => return .ok text
    | none => return .error .notUtf8
  catch e => return .error (causeOf (codeOf e) e)

/-- The files that a call needs, by their paths. -/
def filesFor (arguments : List String) : IO (List (String × Except ReadError String)) := do
  match Request.ofArguments arguments with
  | .ok (.run options) =>
    let input ← readFile options.input
    match input with
    | .ok html =>
      let sheets ← (sheetPaths options html).mapM fun path => do
        return (path, ← readFile path)
      return (options.input, input) :: sheets
    | .error _ => return [(options.input, input)]
  | _ => return []

end MediaQuery.CommandLine

open MediaQuery in
/-- The program. -/
def main (arguments : List String) : IO UInt32 := do
  let files ← CommandLine.filesFor arguments
  let output := CommandLine.run arguments fun path =>
    ((files.find? (·.1 == path)).map Prod.snd).getD (.error .notFound)
  (← IO.getStderr).putStr output.stderr
  (← IO.getStdout).putStr output.stdout
  return output.code.toUInt32
