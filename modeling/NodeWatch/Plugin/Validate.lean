import NodeWatch.Plugin.Basic

/-!
# Checks on a plugin

A plugin has a name and at least one monitor, each monitor has a name, and each condition that a
monitor declares has a reason and no negative number of sightings. The first fault in this order is
reported, with the places of the monitor and of the condition that it is in.
-/

namespace NodeWatch.Plugin

inductive Error where
  | emptyPluginName
  | duplicatePlugin (name : String)
  | noMonitors (name : String)
  | emptyMonitorName
  | monitor (index : Nat) (cause : Error)
  | condition (index : Nat) (cause : Error)
  | emptyReason
  | negativeMinOccurrences (least : Int)
  /-- The plugin failed its checks. -/
  | validation (cause : Error)
  deriving DecidableEq, Repr

def Error.message : Error → String
  | emptyPluginName => "plugin name cannot be empty"
  | duplicatePlugin name => s!"plugin `{name}` already registered"
  | noMonitors name => s!"plugin `{name}` must provide at least one monitor"
  | emptyMonitorName => "monitor name cannot be empty"
  | monitor index _ => s!"monitor {index} validation failed"
  | condition index _ => s!"condition {index} validation failed"
  | emptyReason => "condition reason cannot be empty"
  | negativeMinOccurrences least => s!"min occurrences cannot be negative, got {least}"
  | validation _ => "plugin validation failed"

/-- The chain of faults behind a fault, from the outermost to the first cause. -/
def Error.causes : Error → List Error
  | monitor _ cause => cause :: cause.causes
  | condition _ cause => cause :: cause.causes
  | validation cause => cause :: cause.causes
  | _ => []

/-- The first fault of a list, with the index of its item. -/
def firstFault? {α : Type} (check : α → Except Error Unit) (items : List α) :
    Option (Nat × Error) :=
  items.zipIdx.findSome? fun (item, index) => match check item with
    | .error fault => some (index, fault)
    | .ok _ => none

def checkCondition (c : Condition) : Except Error Unit := do
  if c.reason.isEmpty then throw .emptyReason
  if c.minOccurrences < 0 then throw (.negativeMinOccurrences c.minOccurrences.toInt)

def Monitor.check (m : Monitor) : Except Error Unit := do
  if m.name.isEmpty then throw .emptyMonitorName
  match firstFault? checkCondition m.conditions with
  | some (index, fault) => throw (.condition index fault)
  | none => pure ()

def check (p : Plugin) : Except Error Unit := do
  if p.name.isEmpty then throw .emptyPluginName
  if p.monitors.isEmpty then throw (.noMonitors p.name)
  match firstFault? Monitor.check p.monitors with
  | some (index, fault) => throw (.monitor index fault)
  | none => pure ()

end NodeWatch.Plugin
