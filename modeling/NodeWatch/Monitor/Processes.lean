import NodeWatch.Condition.Reason
import NodeWatch.Monitor.Outcome

/-!
# Scans of the processes

Two scans over all processes: how many have ended without being waited for, and which have an
unusually large environment. A process that ends during a scan is passed over, and one that cannot
be read is logged; neither ends the scan.
-/

namespace NodeWatch.Monitor

open Files Text

/-- This many zombies are reported. -/
def zombieThreshold : Nat := 20

/-- The scan runs every five minutes, so zombies have to last for about 25 minutes. -/
def zombieSightings : Int64 := 5

def zombieCondition (count : Nat) : Condition :=
  { Reason.excessiveZombieProcesses.condition
      s!"Detected {count} zombie processes still running" with
    minOccurrences := zombieSightings }

/-- What is logged about a process whose state was looked up. -/
def stateLog (pid : Nat) : Except Procfs.Error Char → Option LogRecord
  | .ok _ => none
  | .error e =>
    if e.isVanished then none
    else some (.warn s!"failed to read state of pid {pid}: {e.message}")

/-- How many of the processes are zombies. -/
def countZombies (states : List (Nat × Except Procfs.Error Char)) : Nat :=
  states.countP fun (_, state) => match state with
    | .ok c => c == 'Z'
    | .error _ => false

/-- The scan, given the state of each process. -/
def checkZombies (sinkOpen : Bool) (states : List (Nat × Except Procfs.Error Char)) : Outcome :=
  let count := countZombies states
  let logged : Outcome := { logs := states.filterMap fun (pid, state) => stateLog pid state }
  logged.andThen
    (if count < zombieThreshold then .quiet else .notify sinkOpen (zombieCondition count))

def watchZombies (sinkOpen : Bool) (files : Tree) (root : Rootfs) : Outcome :=
  Outcome.ofRead
    (fun pids => checkZombies sinkOpen
      (pids.map fun pid => (pid, Procfs.processState files root pid)))
    (Procfs.listPids files root)

/-- More entries than this are reported. -/
def environmentThreshold : Nat := 1000

/-- The entries of an environment: what stands between zero bytes, unless it is empty. -/
def environmentEntries (environ : Bytes) : List Bytes :=
  runs (· != 0) environ

def environmentCondition (pid count : Nat) : Condition :=
  Reason.largeEnvironment.condition
    s!"PID {pid} has a higher than normal environment variable count at {count}"

/-- The check of one process, given its environment. -/
def checkEnvironment (sinkOpen : Bool) (pid : Nat) : Except Procfs.Error Bytes → Outcome
  | .ok environ =>
    let count := (environmentEntries environ).length
    if count ≤ environmentThreshold then .quiet
    else .notify sinkOpen (environmentCondition pid count)
  | .error e => if e.isVanished then .quiet else .log (.error e.message)

/-- What the scan finds when it comes to a process. -/
structure Visit where
  sinkOpen : Bool
  pid : Nat
  environ : Except Procfs.Error Bytes

/-- The scan, process by process. -/
def scanEnvironments (visits : List Visit) : Outcome :=
  Outcome.sequence (visits.map fun v => checkEnvironment v.sinkOpen v.pid v.environ)

/-- The scan with a sink that stays open or closed, given the environment of each process. -/
def checkEnvironments (sinkOpen : Bool) (environs : List (Nat × Except Procfs.Error Bytes)) :
    Outcome :=
  scanEnvironments (environs.map fun (pid, environ) => ⟨sinkOpen, pid, environ⟩)

def watchEnvironments (sinkOpen : Bool) (files : Tree) (root : Rootfs) : Outcome :=
  Outcome.ofRead
    (fun pids => checkEnvironments sinkOpen
      (pids.map fun pid => (pid, Procfs.readEnviron files root pid)))
    (Procfs.listPids files root)

end NodeWatch.Monitor
