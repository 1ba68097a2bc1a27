import NodeWatch.Condition
import NodeWatch.Plugin.Crd
import NodeWatch.Rootfs
import NodeWatch.Text.Quoted

/-!
# Plugins

A plugin is a named set of monitors, with the custom resources it needs, if it provides any. A
monitor has a name and declares the conditions that it may report.
-/

namespace NodeWatch

structure Plugin.Monitor where
  name : String
  conditions : List Condition
  deriving DecidableEq, Repr

/-- A plugin; `crds` is `none` if it provides no custom resources. -/
structure Plugin where
  name : String
  monitors : List Plugin.Monitor
  crds : Option (List Plugin.Crd) := none
  /-- Where its monitors find the host's files, if they look at them. -/
  root : Option Rootfs := none
  deriving DecidableEq, Repr

namespace Plugin

/-- The plugin of the kernel monitor. -/
def builtin (root : Rootfs := .host) : Plugin :=
  { name := "kernel-monitor", monitors := [⟨"kernel", []⟩], root := some root }

def showText (s : String) : String :=
  String.ofList (Text.Quoted.encode s.toList)

def showList (items : List String) : String :=
  "[" ++ ", ".intercalate items ++ "]"

/-- A record by its name and its fields, each with the text of its value. -/
def showRecord (name : String) (fields : List (String × String)) : String :=
  name ++ " \x7b " ++ ", ".intercalate (fields.map fun (field, text) => field ++ ": " ++ text) ++
    " \x7d"

def showFlag (b : Bool) : String :=
  if b then "true" else "false"

def CrdVersion.describe (v : CrdVersion) : String :=
  showRecord "CrdVersion"
    [("name", showText v.name), ("served", showFlag v.served), ("storage", showFlag v.storage)]

def Crd.describe (d : Crd) : String :=
  showRecord "CustomResourceDefinition"
    [("name", showText d.name), ("group", showText d.group), ("kind", showText d.kind),
      ("plural", showText d.plural), ("scope", d.scope.name),
      ("versions", showList (d.versions.map CrdVersion.describe))]

/-- The plugin as a line for a developer: its name, the names of its monitors, its resources. -/
def describe (p : Plugin) : String :=
  let crds := match p.crds with
    | some crds => "Some(" ++ showList (crds.map Crd.describe) ++ ")"
    | none => "None"
  showRecord "Plugin"
    [("name", showText p.name), ("monitors", showList (p.monitors.map fun m => showText m.name)),
      ("crds", crds)]

end Plugin

end NodeWatch
