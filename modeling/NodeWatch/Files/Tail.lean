import NodeWatch.Files.Pieces
import NodeWatch.Files.Tree
import NodeWatch.Text.Lines
import NodeWatch.Text.Space

/-!
# Following a file

A file that grows is read line by line, from poll to poll. Its end is where reading starts, except
that a file which replaces another one is read from its start. A line ends at a line feed; until
then its bytes are kept. A file that is found shorter than what was read of it is read again from
its start.
-/

namespace NodeWatch.Files

open Text

/-- Where the reading of a path stands. -/
inductive Tail where
  /-- No file is open; the next one is read from its start or from its end. -/
  | waiting (fromStart : Bool)
  /-- The open file, how much of it was read, and the bytes of its unfinished line. -/
  | following (inode : Inode) (position : Nat) (pending : Bytes)

/-- What one poll gives: the new standing, lines, and the fault that ended the reading, if any. The
lines come read by read. A read that finishes no line counts, and so does any other question to the
file system, since those who get the lines handle what they have while it is on its way. -/
structure Tail.Poll where
  tail : Tail
  batches : List (List String) := []
  fault : Option Fault := none

namespace Tail

/-- The line that a finished piece of a file is shown as; a blank one is not shown. -/
def lineOf? (piece : Bytes) : Option String :=
  let line := trim (decodeLossy piece)
  if line.isEmpty then none else some (String.ofList line)

/-- The lines finished by new bytes, and the bytes of the unfinished one. -/
def finish (pending new : Bytes) : List String × Bytes :=
  match completed '\n'.toUInt8 new with
  | ([], rest) => ([], pending ++ rest)
  | (piece :: pieces, rest) => (((pending ++ piece) :: pieces).filterMap lineOf?, rest)

/-- The lines finished by reads, read by read, and the bytes of the unfinished one. -/
def finishAll (pending : Bytes) : List Bytes → List (List String) × Bytes
  | [] => ([], pending)
  | new :: reads =>
    let (lines, pending) := finish pending new
    let (batches, pending) := finishAll pending reads
    (lines :: batches, pending)

/-- Where the bytes of one read end makes no difference. -/
theorem finish_append (pending a b : Bytes) :
    finish pending (a ++ b) =
      ((finish pending a).1 ++ (finish (finish pending a).2 b).1,
        (finish (finish pending a).2 b).2) := by
  rcases ha : completed '\n'.toUInt8 a with ⟨_ | ⟨p, ps⟩, r⟩ <;>
    rcases hb : completed '\n'.toUInt8 b with ⟨_ | ⟨q, qs⟩, t⟩ <;>
    simp [finish, completed_append, ha, hb, ← List.filterMap_append]

/-- How the bytes come in reads makes no difference to the lines. -/
theorem flatten_finishAll (pending : Bytes) (reads : List Bytes) :
    ((finishAll pending reads).1.flatten, (finishAll pending reads).2) =
      finish pending reads.flatten := by
  induction reads generalizing pending with
  | nil => simp [finishAll, finish, completed]
  | cons new reads ih => simp [finishAll, finish_append, ← ih]

/-- What fails in a poll though the tree does not tell. -/
structure Trouble where
  /-- Reading on in the open file fails after so many bytes, or the path cannot be looked at after
  all of them. -/
  reading : Option (Nat × Fault) := none
  /-- The file of the path cannot be opened. -/
  opening : Option Fault := none
  /-- Reading a file that has just been opened, from its start or from its end, fails after so many
  bytes. -/
  beginning : Option (Nat × Fault) := none

/-- Reads the rest of a file. If that fails, the lines that could be read count, and the unfinished
one is lost. -/
def readOn (pending rest : Bytes) :
    Option (Nat × Fault) → List (List String) × Except Fault Bytes
  | none =>
    let (batches, pending) := finishAll pending (pieces pieceSize rest)
    (batches, .ok pending)
  | some (n, fault) => ((finishAll pending (pieces pieceSize (rest.take n))).1, .error fault)

/-- So many questions to the file system that give no line. -/
def questions (n : Nat) : List (List String) :=
  List.replicate n []

/-- Begins to read a file at an offset, and reads it to its end. -/
def begin (inode : Inode) (data : Bytes) (offset : Nat) (failure : Option (Nat × Fault)) : Poll :=
  match readOn [] (data.drop offset) failure with
  | (batches, .ok pending) => { tail := .following inode data.length pending, batches }
  | (batches, .error fault) => { tail := .waiting false, batches, fault := some fault }

/-- Opens the file of a path, if there is one, and reads it to its end. -/
def start (files : Tree) (path : Path) (fromStart : Bool) (trouble : Trouble) : Poll :=
  match trouble.opening.elim (files.resolve path) .error with
  | .error _ => { tail := .waiting fromStart }
  | .ok i => match files.data? i with
    | none => { tail := .waiting false, fault := some .isDirectory }
    | some data =>
      let next := begin i data (if fromStart then 0 else data.length) trouble.beginning
      { next with batches := questions 2 ++ next.batches }

/-- Reads the open file to its end; then looks whether the path still leads to it, and whether it
has become shorter. -/
def resume (files : Tree) (path : Path) (inode position : Nat) (pending : Bytes)
    (trouble : Trouble) : Poll :=
  let data := (files.data? inode).getD []
  match readOn pending (data.drop position) trouble.reading with
  | (batches, .error fault) => { tail := .waiting false, batches, fault := some fault }
  | (batches, .ok pending) =>
    let position := max position data.length
    match files.stat path with
    | .ok (i, length) =>
      if i != inode then
        let next := start files path true trouble
        { next with batches := batches ++ questions 2 ++ next.batches }
      else if length < position then
        let again := begin inode data 0 trouble.beginning
        { again with batches := batches ++ questions 3 ++ again.batches }
      else { tail := .following inode position pending, batches }
    | .error .notFound => { tail := .waiting true, batches }
    | .error fault => { tail := .waiting false, batches, fault := some fault }

/-- One poll of a path. -/
def poll (files : Tree) (path : Path) (t : Tail) (trouble : Trouble := {}) : Poll :=
  match t with
  | waiting fromStart => start files path fromStart trouble
  | following inode position pending => resume files path inode position pending trouble

end Tail

end NodeWatch.Files
