import NodeWatch.Broadcaster
import NodeWatch.Files.Tail
import NodeWatch.KernelLog.Follower
import NodeWatch.Resource
import NodeWatch.Rootfs

/-!
# Observers

An observer reads the lines of one resource and fans them out. Its source is started once, and
stopped at most once.
-/

namespace NodeWatch

open Files Resource

/-- Where the lines of an observer come from. -/
inductive LineSource where
  | kernelLog (path : Path)
  /-- The journal of a unit, with the root to look in if it is not the root directory. -/
  | journal (unit : String) (root : Option Path)
  | file (path : Path)
  deriving DecidableEq, Repr

/-- The source for an address, whose number of parts is checked first. The kernel log is a file of
the host; the path of a file address stands for itself. -/
def LineSource.ofAddress (root : Rootfs) (a : Address) : Except SubscribeError LineSource :=
  match a.kind, a.parts with
  | .kernelLog, [] => .ok (.kernelLog (root.join (.ofText "/dev/kmsg")))
  | .journal, [unit] => .ok (.journal unit (if root.isHost then none else some root.path))
  | .file, [path] => .ok (.file (.ofText path))
  | _, _ => .error (.partCount a)

/-- Where the reading of a source stands. -/
inductive Standing where
  | kernelLog (follower : KernelLog.Follower)
  | journal
  | file (tail : Tail)

def LineSource.start : LineSource → Standing
  | kernelLog _ => .kernelLog .closed
  | journal _ _ => .journal
  | file _ => .file (.waiting false)

def tailLog (path : Path) (fault : Fault) : LogRecord :=
  .error s!"failed to tail `{path.display}`: {fault.message}"

/-- Looks at a source once: the new standing, lines, read by read, and log records. A journal is
followed by a program of its own and gives nothing here. -/
def LineSource.poll (files : Tree) :
    LineSource → Standing → Standing × List (List String) × List LogRecord
  | .kernelLog path, .kernelLog follower =>
    let p := follower.poll files path
    (.kernelLog p.follower, p.batches, p.logs)
  | .file path, .file tail =>
    let p := tail.poll files path
    (.file p.tail, p.batches, (p.fault.map (tailLog path)).toList)
  | _, standing => (standing, [], [])

/-- The log records of a source that is stopped as soon as it has started: only the kernel log
complains if it cannot be opened. -/
def LineSource.openingLogs (files : Tree) : LineSource → List LogRecord
  | .kernelLog path => match files.resolve path with
    | .error fault => [KernelLog.Follower.failureLog path fault]
    | .ok _ => []
  | _ => []

structure Observer where
  address : Address
  source : LineSource
  broadcaster : Broadcaster := {}
  /-- Whether the source has been started. -/
  isStarted : Bool := false
  /-- Whether the source has been told to stop. -/
  isStopped : Bool := false
  /-- Where the reading stands; `none` until the source is looked at for the first time. -/
  standing : Option Standing := none
  /-- The lines that were read and not fanned out yet, read by read. -/
  arrived : List (List String) := []

namespace Observer

def missedLog : LogRecord :=
  .warn "subscriber buffer full, dropping line"

/-- Fans lines out, in order; a subscriber without room for a line is logged. -/
def fanOut (o : Observer) : List String → Observer × List LogRecord
  | [] => (o, [])
  | line :: lines =>
    let (delivery, broadcaster) := o.broadcaster.send line
    let (o, logs) := fanOut { o with broadcaster } lines
    (o, List.replicate delivery.missed missedLog ++ logs)

/-- Fans out the lines of the next read. -/
def deliver (o : Observer) : Observer × List LogRecord :=
  match o.arrived with
  | [] => (o, [])
  | lines :: arrived => { o with arrived }.fanOut lines

/-- One look of a source that has been started; what it reads arrives. If everything is cancelled, a
new source still opens what it reads, and any other does nothing. -/
def look (files : Tree) (isCancelled : Bool) (o : Observer) : Observer × List LogRecord :=
  if !o.isStarted then (o, [])
  else if o.isStopped || isCancelled then
    match o.standing with
    | some _ => (o, [])
    | none => ({ o with standing := some o.source.start }, o.source.openingLogs files)
  else
    let (standing, batches, logs) := o.source.poll files (o.standing.getD o.source.start)
    ({ o with standing := some standing, arrived := o.arrived ++ batches }, logs)

end Observer

end NodeWatch
