import NodeWatch.Condition
import NodeWatch.Cron.Entry
import NodeWatch.Log
import NodeWatch.Procfs

/-!
# Outcomes of a check

A check notifies conditions, logs what it passes over, and may end early with an error. Conditions
go to a sink; once the sink is closed, the first notification ends the check.
-/

namespace NodeWatch.Monitor

/-- Why a check or the handling of a line ended early. -/
inductive Error where
  | sinkClosed
  | procfs (e : Procfs.Error)
  /-- The kernel reports a limit of zero. -/
  | zeroLimit (setting : String)
  | cron (e : Cron.EntryError)
  deriving DecidableEq, Repr

def Error.message : Error → String
  | sinkClosed => "condition sink is closed"
  | procfs e => e.message
  | zeroLimit setting => s!"`{setting}` reports a limit of zero"
  | cron e => e.message

structure Outcome where
  conditions : List Condition := []
  logs : List LogRecord := []
  error : Option Error := none
  deriving DecidableEq, Repr

namespace Outcome

/-- Nothing to report. -/
def quiet : Outcome :=
  {}

def fail (e : Error) : Outcome :=
  { error := some e }

def log (r : LogRecord) : Outcome :=
  { logs := [r] }

/-- Notifies a condition. -/
def notify (sinkOpen : Bool) (c : Condition) : Outcome :=
  if sinkOpen then { conditions := [c] } else fail .sinkClosed

/-- Notifies a condition if there is one. -/
def notifyIf (sinkOpen : Bool) : Option Condition → Outcome
  | some c => notify sinkOpen c
  | none => quiet

/-- What follows after an outcome, unless it ended in an error. -/
def andThen (a b : Outcome) : Outcome :=
  match a.error with
  | some _ => a
  | none => { conditions := a.conditions ++ b.conditions, logs := a.logs ++ b.logs, error := b.error }

/-- One outcome after the other, up to the first error. -/
def sequence : List Outcome → Outcome
  | [] => quiet
  | a :: rest => a.andThen (sequence rest)

/-- The outcome of what was read, or the error that kept it from being read. -/
def ofRead {α : Type} (f : α → Outcome) : Except Procfs.Error α → Outcome
  | .ok a => f a
  | .error e => fail (.procfs e)

end Outcome

end NodeWatch.Monitor
