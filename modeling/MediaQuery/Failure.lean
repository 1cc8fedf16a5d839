/-!
# What can go wrong

Reading text never fails. What fails is what the host supplies: a listener, or the source of the
stylesheets.
-/

namespace MediaQuery

/-- Why a file could not be read. -/
inductive ReadError where
  | notFound
  | isDirectory
  /-- A file stands where the path needs a directory. -/
  | notDirectory
  | notUtf8
  | nameTooLong
  /-- The path holds a zero character. -/
  | zeroInName
  /-- A cause that the host words itself. -/
  | other (message : String)
deriving DecidableEq, Repr

/-- The wording of a cause. -/
def ReadError.message : ReadError → String
  | notFound => "No such file or directory (os error 2)"
  | isDirectory => "Is a directory (os error 21)"
  | notDirectory => "Not a directory (os error 20)"
  | notUtf8 => "stream did not contain valid UTF-8"
  | nameTooLong => "File name too long (os error 36)"
  | zeroInName => "file name contained an unexpected NUL byte"
  | other message => message

/-- A failure of the host. -/
inductive Failure where
  /-- A listener of the live query with the text `media` failed. -/
  | listener (media cause : String)
  /-- A stylesheet could not be read. -/
  | sheet (href : String) (cause : ReadError)
deriving DecidableEq, Repr

namespace Failure

/-- The wording of a failure, without its cause. -/
def message : Failure → String
  | listener media _ => "listener for media query `" ++ media ++ "` failed"
  | sheet href _ => "failed to read stylesheet `" ++ href ++ "`"

/-- The wording of the cause of a failure. -/
def causeMessage : Failure → String
  | listener _ cause => cause
  | sheet _ cause => cause.message

end Failure

end MediaQuery
