import NodeWatch.Cron.Detector
import NodeWatch.Journal.Classify
import NodeWatch.KernelLog.Classify
import NodeWatch.Monitor.Processes
import NodeWatch.Monitor.Usage
import NodeWatch.Resource
import NodeWatch.Worker

/-!
# The kernel monitor

Three streams of lines and four periodic checks, each with a worker of its own: the kernel log, the
journal of the kubelet, the cron log; process numbers, zombies, open files, environments. No worker
sees what another one does.
-/

namespace NodeWatch.Monitor

open Files Resource

/-- The worker of a check: an outcome's conditions and log records are its values. -/
def worker {σ ι : Type} (name : String) (handle : σ → ι → σ × Outcome) : Worker σ ι Outcome where
  name
  handle state item :=
    let (state, outcome) := handle state item
    (state, [outcome], outcome.error.map Error.message)

/-- A line as a worker gets it, with the state of the sink at that moment. -/
structure Sighting where
  sinkOpen : Bool
  line : String

/-- The moment of a periodic check: the sink, and the files of the host. -/
structure Moment where
  sinkOpen : Bool
  files : Tree

def dmesgWorker : Worker Unit Sighting Outcome :=
  worker "kernel/dmesg" fun _ s => ((), .notifyIf s.sinkOpen (KernelLog.classify? s.line.toList))

def kubeletWorker : Worker Unit Sighting Outcome :=
  worker "kernel/kubelet" fun _ s => ((), .notifyIf s.sinkOpen (Journal.classify? s.line.toList))

/-- The detector remembers an entry also if its condition could not be notified. -/
def observeCron (d : Cron.Detector) (s : Sighting) : Cron.Detector × Outcome :=
  match d.observe s.line.toList with
  | .ok (d, tooFast) =>
    (d, if tooFast then .notify s.sinkOpen Cron.tooFastCondition else .quiet)
  | .error e => (d, .fail (.cron e))

def cronWorker : Worker Cron.Detector Sighting Outcome :=
  worker "kernel/cron" observeCron

/-- The periodic checks by the names of their workers. -/
def periodicChecks : List (String × (Bool → Tree → Rootfs → Outcome)) :=
  [("kernel/pids", watchPids), ("kernel/zombies", watchZombies),
    ("kernel/opened-files", watchOpenFiles), ("kernel/environment", watchEnvironments)]

/-- The worker of a periodic check; it remembers nothing. -/
def periodicWorker (root : Rootfs) (name : String) (check : Bool → Tree → Rootfs → Outcome) :
    Worker Unit Moment Outcome :=
  worker name fun _ m => ((), check m.sinkOpen m.files root)

def periodicWorkers (root : Rootfs) : List (Worker Unit Moment Outcome) :=
  periodicChecks.map fun (name, check) => periodicWorker root name check

/-- The streams of lines that the monitor takes. -/
inductive Source where
  | kernelLog
  | kubelet
  | cronLog
  deriving DecidableEq, Repr

/-- The name under which the monitor reports. -/
def kernelName : String := "kernel"

/-- The address of a stream; the cron log is a file of the host. -/
def Source.address (root : Rootfs) : Source → Address
  | kernelLog => .kernelLog
  | kubelet => .journal "kubelet"
  | cronLog => .file (root.join (.ofText "/var/log/cron.log"))

/-- The streams in the order in which the monitor subscribes to them. -/
def sources : List Source :=
  [.kernelLog, .kubelet, .cronLog]

/-- Asks for addresses in order, up to the first that cannot be had: the addresses asked for, and
what came of it. -/
def askFor {ε : Type} (ask : Address → Except ε Unit) : List Address → List Address × Except ε Unit
  | [] => ([], .ok ())
  | address :: addresses => match ask address with
    | .error e => ([address], .error e)
    | .ok _ =>
      let (asked, result) := askFor ask addresses
      (address :: asked, result)

structure Kernel where
  root : Rootfs
  detector : Cron.Detector := {}
  isCancelled : Bool := false

/-- What the monitor gives: conditions for the sink, and log records. -/
structure Report where
  conditions : List Condition := []
  logs : List LogRecord := []

namespace Report

def append (a b : Report) : Report :=
  ⟨a.conditions ++ b.conditions, a.logs ++ b.logs⟩

/-- The report of a worker's outcomes; its own log records come last. -/
def ofOutcomes (outcomes : List Outcome) (logs : List LogRecord) : Report :=
  ⟨outcomes.flatMap Outcome.conditions, outcomes.flatMap Outcome.logs ++ logs⟩

end Report

namespace Kernel

def addresses (root : Rootfs) : List Address :=
  sources.map (Source.address root)

/-- Takes a line of a stream; a cancelled monitor takes nothing. -/
def takeLine (k : Kernel) (sinkOpen : Bool) (source : Source) (line : String) : Kernel × Report :=
  if k.isCancelled then (k, {})
  else match source with
    | .kernelLog =>
      let (_, outcomes, logs) := dmesgWorker.step () ⟨sinkOpen, line⟩
      (k, .ofOutcomes outcomes logs)
    | .kubelet =>
      let (_, outcomes, logs) := kubeletWorker.step () ⟨sinkOpen, line⟩
      (k, .ofOutcomes outcomes logs)
    | .cronLog =>
      let (detector, outcomes, logs) := cronWorker.step k.detector ⟨sinkOpen, line⟩
      ({ k with detector }, .ofOutcomes outcomes logs)

/-- Runs a periodic check; a cancelled monitor checks nothing. -/
def check (k : Kernel) (sinkOpen : Bool) (files : Tree) (w : Worker Unit Moment Outcome) : Report :=
  if k.isCancelled then {}
  else
    let (_, outcomes, logs) := w.step () ⟨sinkOpen, files⟩
    .ofOutcomes outcomes logs

/-- Runs each periodic check once. -/
def tick (k : Kernel) (sinkOpen : Bool) (files : Tree) : Report :=
  (periodicWorkers k.root).foldl (fun report w => report.append (k.check sinkOpen files w)) {}

def cancel (k : Kernel) : Kernel :=
  { k with isCancelled := true }

end Kernel

end NodeWatch.Monitor
