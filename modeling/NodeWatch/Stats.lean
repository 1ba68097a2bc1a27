import NodeWatch.Condition
import NodeWatch.Json.Value
import NodeWatch.Table

/-!
# Statistics of exported conditions

How many conditions of each severity and reason were exported, and which reasons were fatal. A
snapshot lists them in the order of the reasons, then of the names of the severities, so it depends
only on what was recorded and not on the order of it.

Counts are natural numbers and not words of 64 bits: no count is greater than the number of
conditions that were recorded, and `2 ^ 64` of them are never recorded, so that no word would
overflow.
-/

namespace NodeWatch

open Json

structure Stats where
  counts : Table (Severity × String) Nat := {}
  fatalReasons : List String := []

structure ConditionCount where
  severity : Severity
  reason : String
  count : Nat
  deriving DecidableEq, Repr

structure Snapshot where
  conditions : List ConditionCount
  fatalReasons : List String
  deriving DecidableEq, Repr

namespace Stats

def count (s : Stats) (severity : Severity) (reason : String) : Nat :=
  (s.counts.get? (severity, reason)).getD 0

def record (s : Stats) (c : Condition) : Stats :=
  { counts := s.counts.set (c.severity, c.reason) (s.count c.severity c.reason + 1)
    fatalReasons :=
      if c.severity = .fatal && !s.fatalReasons.contains c.reason then c.reason :: s.fatalReasons
      else s.fatalReasons }

/-- Reasons are compared by code points, equal ones by the names of the severities. -/
def before (a b : ConditionCount) : Bool :=
  if a.reason = b.reason then a.severity.name ≤ b.severity.name else a.reason < b.reason

def snapshot (s : Stats) : Snapshot :=
  { conditions :=
      (s.counts.entries.map fun ((severity, reason), count) =>
        ⟨severity, reason, count⟩).mergeSort before
    fatalReasons := s.fatalReasons.mergeSort (· ≤ ·) }

end Stats

def ConditionCount.toValue (c : ConditionCount) : Value :=
  .object [("severity", .text c.severity.name), ("reason", .text c.reason),
    ("count", .integer c.count)]

def Snapshot.toJson (s : Snapshot) : String :=
  (Value.object [("conditions", .list (s.conditions.map ConditionCount.toValue)),
    ("fatalReasons", .list (s.fatalReasons.map .text))]).toText

end NodeWatch
