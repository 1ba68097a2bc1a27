import NodeWatch.Condition.Reason
import NodeWatch.Cron.Entry
import NodeWatch.Table

/-!
# Cron jobs that run too often

The detector remembers when each command was last logged. A command logged again less than five
minutes later runs too often. Every entry counts as the last one of its command, also one that is
reported.
-/

namespace NodeWatch.Cron

structure Detector where
  /-- The last timestamp of each command. -/
  lastSeen : Table String Timestamp := {}

/-- Jobs repeated within this many minutes run too often. -/
def leastMinutes : Nat := 5

namespace Detector

def last? (d : Detector) (command : String) : Option Timestamp :=
  d.lastSeen.get? command

/-- Remembers an entry as the last one of its command. -/
def remember (d : Detector) (e : Entry) : Detector :=
  { lastSeen := d.lastSeen.set e.command e.timestamp }

@[simp] theorem last?_remember_self (d : Detector) (e : Entry) :
    (d.remember e).last? e.command = some e.timestamp := by
  simp [remember, last?]

theorem last?_remember_of_ne (d : Detector) (e : Entry) {command : String}
    (h : command ≠ e.command) : (d.remember e).last? command = d.last? command := by
  simp [remember, last?, Table.get?_set_of_ne _ h]

/-- Whether an entry repeats its command too early. -/
def isTooFast (d : Detector) (e : Entry) : Bool :=
  ((d.last? e.command).map fun last => e.timestamp.isWithin leastMinutes last).getD false

/-- Takes one line: what is remembered after it, and whether it repeats its command too early. -/
def observe (d : Detector) (line : List Char) : Except EntryError (Detector × Bool) := do
  match ← Entry.parse line with
  | some e => pure (d.remember e, d.isTooFast e)
  | none => pure (d, false)

end Detector

def tooFastCondition : Condition :=
  Reason.rapidCron.condition
    s!"A cron job is running faster than every {leastMinutes} minutes, which can impact node performance"

end NodeWatch.Cron
