/-!
# Faults of the file system

Why a file or a directory could not be used, with the wording and the number that the system gives.
-/

namespace NodeWatch.Files

inductive Fault where
  | notFound
  /-- The process that a file is about has ended. -/
  | processGone
  | inputOutput
  | notDirectory
  | isDirectory
  | invalidArgument
  | nameTooLong
  | tooManyLinks
  /-- The content is wanted as text and is none. -/
  | notText
  /-- The path has a zero byte. -/
  | zeroInName
  deriving DecidableEq, Repr

def Fault.message : Fault → String
  | notFound => "No such file or directory (os error 2)"
  | processGone => "No such process (os error 3)"
  | inputOutput => "Input/output error (os error 5)"
  | notDirectory => "Not a directory (os error 20)"
  | isDirectory => "Is a directory (os error 21)"
  | invalidArgument => "Invalid argument (os error 22)"
  | nameTooLong => "File name too long (os error 36)"
  | tooManyLinks => "Too many levels of symbolic links (os error 40)"
  | notText => "stream did not contain valid UTF-8"
  | zeroInName => "file name contained an unexpected NUL byte"

end NodeWatch.Files
