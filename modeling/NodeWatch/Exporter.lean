import NodeWatch.Condition.Json
import NodeWatch.Gate
import NodeWatch.Log
import NodeWatch.Stats

/-!
# Exporting conditions

A notification is a condition with the name of the monitor that reports it. Those that the gate lets
pass are written to the log, at the level of their severity, and counted.
-/

namespace NodeWatch

structure Notification where
  monitor : String
  condition : Condition
  deriving DecidableEq, Repr

def Severity.level : Severity → Level
  | info => .info
  | warning => .warn
  | fatal => .error

/-- The log record of an exported condition. -/
def Notification.record (n : Notification) : LogRecord :=
  ⟨n.condition.severity.level, n.condition.recordJson n.monitor⟩

structure Exporter where
  gate : Gate := {}
  stats : Stats := {}

namespace Exporter

/-- Takes a notification; gives its record if it passes the gate. -/
def take (e : Exporter) (n : Notification) : Option LogRecord × Exporter :=
  match e.gate.pass n.condition with
  | (true, gate) => (some n.record, { gate, stats := e.stats.record n.condition })
  | (false, gate) => (none, { e with gate })

/-- Takes notifications in order. -/
def takeAll (e : Exporter) : List Notification → List LogRecord × Exporter
  | [] => ([], e)
  | n :: notifications =>
    let (record, e) := e.take n
    let (records, e) := e.takeAll notifications
    (record.toList ++ records, e)

end Exporter

end NodeWatch
