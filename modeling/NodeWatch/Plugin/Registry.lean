import NodeWatch.Plugin.Validate

/-!
# The registry of plugins

Plugins enter the registry under their names, once, and never leave it. A plugin that may not enter
leaves the registry as it was.
-/

namespace NodeWatch.Plugin

/-- The registered plugins in the order in which they came. -/
structure Registry where
  plugins : List Plugin := []

namespace Registry

def get? (r : Registry) (name : String) : Option Plugin :=
  r.plugins.find? fun p => p.name == name

def size (r : Registry) : Nat :=
  r.plugins.length

/-- The monitors of all plugins; plugins may have monitors of the same name. -/
def monitors (r : Registry) : List Monitor :=
  r.plugins.flatMap Plugin.monitors

/-- The custom resources of all plugins that provide some. -/
def crds (r : Registry) : List Crd :=
  r.plugins.flatMap fun p => p.crds.getD []

/-- Enters a plugin under its name. -/
def register (r : Registry) (p : Plugin) : Except Error Registry :=
  if p.name.isEmpty then .error .emptyPluginName
  else if (r.get? p.name).isSome then .error (.duplicatePlugin p.name)
  else .ok { plugins := r.plugins ++ [p] }

/-- Enters a plugin that passes its checks. -/
def registerChecked (r : Registry) (p : Plugin) : Except Error Registry :=
  match p.check with
  | .error fault => .error (.validation fault)
  | .ok _ => r.register p

/-- The message with which a program stops that cannot do without the plugin. -/
def requiredMessage (fault : Error) : String :=
  s!"failed to register plugin: {fault.message}"

end Registry

/-- A registry that holds the built-in plugin from its first use on. -/
structure SharedRegistry where
  registry : Registry := {}
  /-- Whether the built-in plugin has been entered. -/
  hasBuiltin : Bool := false
  /-- Whether a program has stopped because the built-in plugin could not be entered. -/
  isPoisoned : Bool := false

namespace SharedRegistry

/-- Enters the built-in plugin at the first call; later calls change nothing, whatever root they
give. If its name is taken at the first call, it stays taken, so that later calls fail as well. -/
def registerBuiltin (r : SharedRegistry) (root : Rootfs := .host) : Except Error SharedRegistry :=
  if r.hasBuiltin then .ok r
  else match r.registry.register (builtin root) with
    | .ok registry => .ok { r with registry, hasBuiltin := true }
    | .error fault => .error fault

/-- The message with which a program stops that asks for the built-in plugin once more, after
another has stopped in the middle of entering it. -/
def poisonedMessage : String :=
  "Once instance has previously been poisoned"

/-- The message with which a program stops that asks for the built-in plugin, if it stops. -/
def requireBuiltin (r : SharedRegistry) (root : Rootfs := .host) : Option String × SharedRegistry :=
  if r.isPoisoned then (some poisonedMessage, r)
  else match r.registerBuiltin root with
    | .ok r => (none, r)
    | .error fault => (some (Registry.requiredMessage fault), { r with isPoisoned := true })

end SharedRegistry

end NodeWatch.Plugin
