import NodeWatch.Condition

/-!
# The reasons this library reports

A reason comes with the severity of its conditions. A condition of it has an empty message and
needs one sighting, until its maker says otherwise.
-/

namespace NodeWatch

structure Reason where
  name : String
  severity : Severity
  deriving DecidableEq, Repr

namespace Reason

/-- A condition of the reason with the given message. -/
def condition (r : Reason) (message : String) : Condition :=
  { reason := r.name, message, severity := r.severity }

def appBlocked : Reason := ⟨"AppBlocked", .warning⟩
def appCrash : Reason := ⟨"AppCrash", .warning⟩
def approachingKernelPidMax : Reason := ⟨"ApproachingKernelPidMax", .warning⟩
def approachingMaxOpenFiles : Reason := ⟨"ApproachingMaxOpenFiles", .warning⟩
def conntrackExceededKernel : Reason := ⟨"ConntrackExceededKernel", .warning⟩
def excessiveZombieProcesses : Reason := ⟨"ExcessiveZombieProcesses", .warning⟩
def forkFailedOutOfPids : Reason := ⟨"ForkFailedOutOfPIDs", .fatal⟩
def kernelBug : Reason := ⟨"KernelBug", .warning⟩
def largeEnvironment : Reason := ⟨"LargeEnvironment", .warning⟩
def rapidCron : Reason := ⟨"RapidCron", .warning⟩
def softLockup : Reason := ⟨"SoftLockup", .warning⟩

end Reason

end NodeWatch
