import NodeWatch.Files.Path
import NodeWatch.Log
import NodeWatch.Rootfs
import NodeWatch.Text.Lines
import NodeWatch.Text.Space

/-!
# Following the journal of a unit

A program prints the new entries of a unit, one per line, for as long as it runs. Its lines are
text; a line that is none ends the reading. When the program ends, what it printed last counts as a
line too.
-/

namespace NodeWatch.Journal

open Text

/-- The arguments that ask for new entries of a unit; a root other than the root directory is
named. -/
def arguments (unit : String) (root : Rootfs) : List String :=
  ["--follow", "--lines=0", "--output=cat", "--identifier", unit] ++
    if root.isHost then [] else ["--root", root.path.display]

/-- Why the program could not be run, or not be read. -/
inductive Error where
  | notInstalled
  /-- An argument has a zero byte. -/
  | zeroInArgument
  /-- A line is no text. -/
  | notText (e : Utf8Error)
  deriving DecidableEq, Repr

def Error.message : Error → String
  | notInstalled => "No such file or directory (os error 2)"
  | zeroInArgument => "nul byte found in provided data"
  | notText ⟨index, some width⟩ =>
    s!"invalid utf-8 sequence of {width} bytes from index {index}"
  | notText ⟨index, none⟩ => s!"incomplete utf-8 byte sequence from index {index}"

/-- Whether an argument can be given to a program. -/
def checkArguments (unit : String) (root : Rootfs) : Except Error Unit :=
  if unit.toList.contains '\x00' || root.path.bytes.contains 0 then .error .zeroInArgument
  else .ok ()

/-- How the program ended. -/
inductive Exit where
  | status (code : Nat)
  | signal (number : Nat) (name : String)
  deriving DecidableEq, Repr

def Exit.message : Exit → String
  | status code => s!"exit status: {code}"
  | signal number name => s!"signal: {number} ({name})"

/-- Reads the lines of the program in order, without white space at their ends and without blank
ones, up to the first that is no text. -/
def readLines : List Bytes → List String × Option Error
  | [] => ([], none)
  | piece :: pieces => match decode piece with
    | .error e => ([], some (.notText e))
    | .ok text =>
      let line := trim text
      let (lines, error) := readLines pieces
      (if line.isEmpty then lines else String.ofList line :: lines, error)

/-- The lines that the program has finished, without the end of the line; at its end, also the last
one. What ends a line is gone before the line is read as text, so a character that breaks off there
is incomplete, and not followed by a wrong byte. -/
def outputLines (hasEnded : Bool) (output : Bytes) : List Bytes :=
  let (pieces, rest) := completed '\n'.toUInt8 output
  pieces.map (dropEnd '\r'.toUInt8) ++ if hasEnded && !rest.isEmpty then [rest] else []

def failureLog (unit : String) (e : Error) : LogRecord :=
  .error s!"failed to follow journal of `{unit}`: {e.message}"

def exitLog (unit : String) (e : Exit) : LogRecord :=
  .warn s!"journalctl for `{unit}` exited with {e.message}, restarting"

/-- What following gives up to the end of the program, or up to now if it still runs. -/
def follow (unit : String) (output : Bytes) (exit : Option Exit) :
    List String × List LogRecord :=
  let (lines, error) := readLines (outputLines exit.isSome output)
  match error with
  | some e => (lines, [failureLog unit e])
  | none => (lines, (exit.map (exitLog unit)).toList)

end NodeWatch.Journal
