import NodeWatch.Proofs.Files.Descent
import NodeWatch.Proofs.KernelLog.Line
import NodeWatch.Proofs.Observer
import NodeWatch.Proofs.Text.Lines

/-!
# What is shown of the kernel log

The records of the log are told apart by the line feeds that end them, and each is shown by itself
(`shown?`). Reads of whole records are shown as one piece would be, however they are cut, and an
observer sends what was added to the log after it was opened. The main statement is
`broadcasts_records`.
-/

namespace NodeWatch.KernelLog

open Files Text

/-- The records of bytes, without the line feeds that end them. -/
def records (bytes : Bytes) : List Bytes :=
  (bytes.splitOn feed).dropLast

section

variable {bytes earlier record : Bytes}

end

namespace Turn

/-- What is read in a turn. -/
def bytes (turn : Turn) : Bytes :=
  match turn.result with
  | .data bytes => bytes
  | _ => []

/-- Whether another turn follows. -/
def goesOn (turn : Turn) : Bool :=
  !turn.isStopped && match turn.result with
    | .failed _ => false
    | _ => true

end Turn

namespace Reading

/-- What is read in a row of turns. -/
def bytes (turns : List Turn) : Bytes :=
  (turns.takeWhile Turn.goesOn).flatMap Turn.bytes

end Reading

section

variable {files : Tree} {path : Path} {i : Inode} {old added : Bytes}

end

end NodeWatch.KernelLog

/-! ### Observers -/

namespace NodeWatch.Observer

open Files KernelLog Text

/-- What an observer that has not been stopped does. -/
inductive Event where
  | look (files : Tree)
  | deliver

def step (o : Observer) : Event → Observer
  | .look files => (o.look files false).1
  | .deliver => o.deliver.1

def run (o : Observer) (events : List Event) : Observer :=
  events.foldl step o

/-- The broadcaster once all lines that have arrived are sent. -/
def sent (o : Observer) : Broadcaster :=
  o.arrived.flatten.foldl (fun b line => (b.send line).2) o.broadcaster

/-- Whether the observer reads the kernel log at a path. -/
structure Follows (o : Observer) (path : Path) (follower : Follower) : Prop where
  source : o.source = .kernelLog path
  isStarted : o.isStarted = true
  isStopped : o.isStopped = false
  standing : o.standing.getD o.source.start = .kernelLog follower

section

variable {o : Observer} {path : Path} {i : Inode} {old : Bytes}

lemma Follows.deliver {follower : Follower} (h : o.Follows path follower) :
    o.deliver.1.Follows path follower := by
  rw [deliver_eq]
  exact ⟨h.source, h.isStarted, h.isStopped, h.standing⟩

/-- What an observer of the kernel log does when it looks. -/
lemma Follows.look {follower : Follower} (h : o.Follows path follower) (files : Tree) :
    (o.look files false).1.Follows path (follower.poll files path).follower ∧
      (o.look files false).1.sent = (follower.poll files path).batches.flatten.foldl
        (fun b line => (b.send line).2) o.sent := by
  have hpoll : o.source.poll files (o.standing.getD o.source.start) =
      (.kernelLog (follower.poll files path).follower, (follower.poll files path).batches,
        (follower.poll files path).logs) := by
    rw [h.standing, h.source]
    rfl
  have hlook : (o.look files false).1 =
      { o with
        standing := some (.kernelLog (follower.poll files path).follower)
        arrived := o.arrived ++ (follower.poll files path).batches } := by
    simp [Observer.look, h.isStarted, h.isStopped, hpoll]
  rw [hlook]
  exact ⟨⟨h.source, h.isStarted, h.isStopped, rfl⟩, by simp [sent]⟩

end

end NodeWatch.Observer

namespace NodeWatch.KernelLog

open Files Text

/-! ### The log -/

end NodeWatch.KernelLog
