import NodeWatch.Exporter
import NodeWatch.Hub
import NodeWatch.Mailbox
import NodeWatch.Monitor.Kernel

/-!
# Kernel monitors that listen

A registered kernel monitor has a line worker for each of its streams. The workers take turns. A turn
has a fixed number of units: to take a line costs one, and to put a condition into the mailbox costs
another. A worker without units goes on in its next turn, and puts the condition of the line it is at
into the mailbox first. So no worker keeps the others waiting for long, and lines can be missed while
a worker waits for its turn.
-/

namespace NodeWatch

/-- The worker for one stream of a kernel monitor. -/
structure LineWorker where
  source : Monitor.Source
  stream : StreamId
  /-- The conditions of the line it is at that are not in the mailbox yet. -/
  held : List Condition := []

/-- A registered kernel monitor with its workers, in the order of its sources. -/
structure KernelListener where
  kernel : Monitor.Kernel
  workers : List LineWorker

namespace KernelListener

def new (kernel : Monitor.Kernel) (streams : List StreamId) : KernelListener where
  kernel
  workers := (Monitor.sources.zip streams).map fun (source, stream) => { source, stream }

def streams (l : KernelListener) : List StreamId :=
  l.workers.map LineWorker.stream

/-- So many lines and conditions wait for the workers. -/
def backlog (l : KernelListener) (hub : Hub) : Nat :=
  l.workers.foldl (fun n w => n + w.held.length + (hub.waiting w.stream).length) 0

end KernelListener

/-- What a worker sees and changes in its turn. -/
structure Turn where
  hub : Hub
  mailbox : Mailbox Notification
  kernel : Monitor.Kernel
  worker : LineWorker
  logs : List LogRecord := []

/-- What a worker can do with one unit. -/
inductive Progress where
  | moved (t : Turn)
  /-- Nothing is left to do. -/
  | idle
  /-- There is no room for a condition. -/
  | blocked

namespace Turn

/-- The units of one turn. -/
def units : Nat := 128

/-- Spends one unit; `promised` places of the mailbox are not for this worker. -/
def step (promised : Nat) (t : Turn) : Progress :=
  match t.worker.held with
  | c :: held =>
    if t.mailbox.hasRoom promised then
      .moved { t with
        mailbox := (t.mailbox.send ⟨Monitor.kernelName, c⟩).2
        worker := { t.worker with held } }
    else .blocked
  | [] => match t.hub.takeOne t.worker.stream with
    | (none, _) => .idle
    | (some line, hub) =>
      let (kernel, report) := t.kernel.takeLine (!t.mailbox.isClosed) t.worker.source line
      .moved { t with
        hub, kernel
        worker := { t.worker with held := report.conditions }
        logs := t.logs ++ report.logs }

/-- Spends units as long as there is something to do; tells whether the worker is blocked. -/
def run (promised : Nat) : Nat → Turn → Turn × Bool
  | 0, t => (t, false)
  | units + 1, t => match t.step promised with
    | .moved t => t.run promised units
    | .idle => (t, false)
    | .blocked => (t, true)

end Turn

end NodeWatch
