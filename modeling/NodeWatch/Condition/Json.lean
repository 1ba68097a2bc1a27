import NodeWatch.Condition
import NodeWatch.Json.Shape

/-!
# Conditions as JSON

A condition is an object with its four fields. An exported record has the name of the monitor before
them; a reader of conditions skips it.
-/

namespace NodeWatch

open Json

def Condition.members (c : Condition) : List (String × Value) :=
  [("reason", .text c.reason), ("message", .text c.message),
    ("severity", .text c.severity.name), ("minOccurrences", .integer c.minOccurrences.toInt)]

def Condition.toJson (c : Condition) : String :=
  (Value.object c.members).toText

/-- The record of a condition that the monitor `source` reported. -/
def Condition.recordJson (source : String) (c : Condition) : String :=
  (Value.object (("source", .text source) :: c.members)).toText

def Severity.shape : Shape :=
  Shape.choice [info.name, warning.name, fatal.name]

def Condition.shape : Shape :=
  Shape.record [("reason", Shape.text), ("message", Shape.text), ("severity", Severity.shape),
    ("minOccurrences", Shape.integer)]

/-- The condition with the given fields. -/
def Condition.ofValue? : Value → Option Condition
  | .object [(_, .text reason), (_, .text message), (_, .text severity), (_, .integer least)] => do
    let severity ← Severity.ofName? severity
    pure { reason, message, severity, minOccurrences := Int64.ofInt least }
  | _ => none

def Condition.ofJson (text : String) : Except Fault Condition := do
  let value ← Condition.shape.parse text
  match Condition.ofValue? value with
  | some condition => pure condition
  | none => throw .mismatched

end NodeWatch
