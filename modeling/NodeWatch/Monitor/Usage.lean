import NodeWatch.Condition.Reason
import NodeWatch.Monitor.Outcome
import NodeWatch.Number.Double

/-!
# Use of kernel limits

The open files and the processes of the node against the limits of the kernel. A limit is reported
when seven tenths of it are in use; the share is a quotient of doubles.
-/

namespace NodeWatch.Monitor

open Files

/-- The share of `used` in `limit`, both first rounded to doubles. -/
def share (used limit : Nat) : Rat :=
  Double.div (Double.nearest used) (Double.nearest limit)

/-- Seven tenths, as a double. -/
def threshold : Rat :=
  Double.nearest (7 / 10)

def percent (used limit : Nat) : String :=
  Double.oneDecimal (Double.mul (share used limit) 100)

/-- Notifies `condition` if the share in use has reached the threshold. -/
def checkShare (sinkOpen : Bool) (setting : String) (condition : Condition) (used limit : Nat) :
    Outcome :=
  if limit = 0 then .fail (.zeroLimit setting)
  else if share used limit < threshold then .quiet
  else .notify sinkOpen condition

def openFilesCondition (allocated total : Nat) : Condition :=
  let use := s!"{allocated} of {total} total, {percent allocated total}%"
  Reason.approachingMaxOpenFiles.condition
    s!"Approaching Exhaustion of max open file descriptors. {use}"

def checkOpenFiles (sinkOpen : Bool) (allocated total : Nat) : Outcome :=
  checkShare sinkOpen Procfs.fileHandlesName (openFilesCondition allocated total) allocated total

def watchOpenFiles (sinkOpen : Bool) (files : Tree) (root : Rootfs) : Outcome :=
  Outcome.ofRead (fun handles => checkOpenFiles sinkOpen handles.allocated handles.total)
    (Procfs.fileHandles files root)

def pidMaxName : String := "kernel.pid_max"

def threadsMaxName : String := "kernel.threads-max"

def pidsCondition (current limit : Nat) : Condition :=
  let use := s!"{current} of {limit} total, {percent current limit}%"
  Reason.approachingKernelPidMax.condition s!"Approaching max number of PIDs. {use}"

def checkPids (sinkOpen : Bool) (current limit : Nat) : Outcome :=
  checkShare sinkOpen pidMaxName (pidsCondition current limit) current limit

/-- How many processes there are, and the larger one of the two limits on them. -/
def pidUsage (files : Tree) (root : Rootfs) : Except Procfs.Error (Nat × Nat) := do
  let pidMax ← Procfs.parseSetting Text.count? files root pidMaxName
  let threadsMax ← Procfs.parseSetting Text.count? files root threadsMaxName
  let pids ← Procfs.listPids files root
  pure (pids.length, max pidMax threadsMax)

def watchPids (sinkOpen : Bool) (files : Tree) (root : Rootfs) : Outcome :=
  Outcome.ofRead (fun (current, limit) => checkPids sinkOpen current limit) (pidUsage files root)

end NodeWatch.Monitor
