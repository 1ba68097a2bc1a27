/-!
# Conditions

A condition is one sighting of a problem on the node. Its reason names the kind of problem and stays
the same from sighting to sighting, its message says what was seen this time, and it becomes active
once its reason has been seen `minOccurrences` times.
-/

namespace NodeWatch

/-- How severe a problem is; after a `fatal` one the node needs help from outside. -/
inductive Severity where
  | info
  | warning
  | fatal
  deriving DecidableEq, Repr

def Severity.name : Severity → String
  | info => "Info"
  | warning => "Warning"
  | fatal => "Fatal"

def Severity.ofName? : String → Option Severity
  | "Info" => some info
  | "Warning" => some warning
  | "Fatal" => some fatal
  | _ => none

/-- A text that names no severity. -/
structure InvalidSeverity where
  text : String
  deriving DecidableEq, Repr

def InvalidSeverity.message (e : InvalidSeverity) : String :=
  s!"invalid severity: `{e.text}`"

def Severity.parse (text : String) : Except InvalidSeverity Severity :=
  match ofName? text with
  | some severity => .ok severity
  | none => .error ⟨text⟩

theorem Severity.ofName?_name (s : Severity) : ofName? s.name = some s := by
  cases s <;> rfl

structure Condition where
  reason : String
  message : String := ""
  severity : Severity
  /-- Sightings needed before the condition is active; a number of 64 bits, negative ones too. -/
  minOccurrences : Int64 := 1
  deriving DecidableEq, Repr

end NodeWatch
