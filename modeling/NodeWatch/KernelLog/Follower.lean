import NodeWatch.Files.Pieces
import NodeWatch.Files.Tree
import NodeWatch.KernelLog.Record
import NodeWatch.Log
import NodeWatch.Text.Lines

/-!
# Following the kernel log

The kernel log is opened at its end and read from there, piece by piece. Each piece is split into
records on its own. Where nothing is left the reader waits; where records were overwritten it goes
on; any other fault closes the log, to be opened anew at the next poll.
-/

namespace NodeWatch.KernelLog

open Files Text

/-- What one read of the log gives. -/
inductive ReadResult where
  /-- At least one byte. -/
  | data (bytes : Bytes)
  | atEnd
  /-- Nothing is there yet. -/
  | wouldBlock
  /-- Records were lost before they could be read. -/
  | overwritten
  | failed (fault : Fault)

/-- The lines shown for a piece of the log. -/
def pieceLines (bytes : Bytes) : List String :=
  ((lines (decodeLossy bytes)).filterMap recordLine?).map String.ofList

/-- One turn of the reader: it looks whether it has been told to stop, and if not, it reads. It waits
where nothing is left to read; if it is told to stop while it waits, the next turn shows it. -/
structure Turn where
  isStopped : Bool := false
  result : ReadResult

/-- What a row of turns gives: lines, read by read, how many bytes were read, log records, and the
fault that ends it. -/
structure Reading where
  batches : List (List String) := []
  size : Nat := 0
  logs : List LogRecord := []
  fault : Option Fault := none

def overwrittenLog : LogRecord :=
  .warn "kernel log records were overwritten before they could be read"

/-- Takes turns in order, up to the first that finds the reader stopped or whose read fails. -/
def Reading.ofTurns : List Turn → Reading
  | [] => {}
  | turn :: turns =>
    if turn.isStopped then {}
    else match turn.result with
      | .data bytes =>
        let r := ofTurns turns
        { r with batches := pieceLines bytes :: r.batches, size := bytes.length + r.size }
      | .atEnd => ofTurns turns
      | .wouldBlock => ofTurns turns
      | .overwritten =>
        let r := ofTurns turns
        { r with logs := overwrittenLog :: r.logs }
      | .failed fault => { fault := some fault }

/-- Takes the results of reads in order, while nobody tells the reader to stop. -/
def Reading.ofResults (results : List ReadResult) : Reading :=
  ofTurns (results.map fun result => { result })

/-- Where the reading of the log stands. -/
inductive Follower where
  | closed
  /-- The open file and how much of it was read. -/
  | reading (inode : Inode) (offset : Nat)

/-- What one poll gives; the lines come read by read. -/
structure Follower.Poll where
  follower : Follower
  batches : List (List String) := []
  logs : List LogRecord := []

namespace Follower

def failureLog (path : Path) (fault : Fault) : LogRecord :=
  .error s!"failed to read kernel log `{path.display}`: {fault.message}"

/-- The reads that an open file gives from an offset on. -/
def reads (files : Tree) (inode : Inode) (offset : Nat) : List ReadResult :=
  match files.data? inode with
  | some data => (pieces pieceSize (data.drop offset)).map .data ++ [.atEnd]
  | none => [.failed .isDirectory]

/-- Reads an open file until nothing is left. -/
def resume (files : Tree) (path : Path) (inode : Inode) (offset : Nat) : Poll :=
  let r := Reading.ofResults (reads files inode offset)
  match r.fault with
  | some fault =>
    { follower := .closed, batches := r.batches, logs := r.logs ++ [failureLog path fault] }
  | none => { follower := .reading inode (offset + r.size), batches := r.batches, logs := r.logs }

/-- One poll of the log at a path. -/
def poll (files : Tree) (path : Path) : Follower → Poll
  | closed => match files.stat path with
    | .error fault => { follower := .closed, logs := [failureLog path fault] }
    | .ok (inode, length) => resume files path inode length
  | reading inode offset => resume files path inode offset

end Follower

end NodeWatch.KernelLog
