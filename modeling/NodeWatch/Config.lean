import NodeWatch.Files.Tree
import NodeWatch.ListenAddress
import NodeWatch.Rootfs

/-!
# Configuration

Where the host's root directory is, and on which address the status is served. Both come from the
environment of the agent. An agent in a container needs the host's root to be mounted.
-/

namespace NodeWatch

open Files Text

/-- The variables of the environment that are read, as far as they are set. -/
structure Settings where
  /-- The host's root, told outright. -/
  hostRoot : Option Bytes := none
  /-- Where the host's root is mounted in a container. -/
  mountPath : Option Bytes := none
  listenAddress : Option Bytes := none

structure Config where
  root : Rootfs
  listenAddress : ListenAddress
  deriving DecidableEq, Repr

namespace Config

inductive Error where
  /-- The agent runs in a container, and nothing is mounted at the path. -/
  | missingHostRoot (path : Path)
  | listenAddress (text : String)
  deriving DecidableEq, Repr

def Error.message : Error → String
  | missingHostRoot path =>
    "detected container runtime environment, but missing host root mount at " ++ s!"`{path.display}`"
  | listenAddress text => s!"invalid listen address `{text}`: invalid socket address syntax"

def defaultMountPath : Path :=
  .ofText "/rootfs"

def defaultListenAddress : String :=
  "0.0.0.0:3000"

/-- Where the host's root is: the root told outright, else the mount in a container, else the root
directory. -/
def findRoot (files : Tree) (inContainer : Bool) (settings : Settings) : Except Error Rootfs :=
  match settings.hostRoot with
  | some bytes => .ok ⟨⟨bytes⟩⟩
  | none =>
    let mount := (settings.mountPath.map Files.Path.mk).getD defaultMountPath
    if !inContainer then .ok Rootfs.host
    else match files.resolve mount with
      | .ok _ => .ok ⟨mount⟩
      | .error _ => .error (.missingHostRoot mount)

/-- The text of the address to listen on; a value that is no text counts as unset. -/
def listenText (settings : Settings) : String :=
  ((settings.listenAddress.bind decode?).map String.ofList).getD defaultListenAddress

/-- The configuration; a missing root is reported before a bad address. -/
def ofSettings (files : Tree) (inContainer : Bool) (settings : Settings) : Except Error Config := do
  let root ← findRoot files inContainer settings
  let text := listenText settings
  match ListenAddress.parse? text with
  | some listenAddress => pure { root, listenAddress }
  | none => throw (.listenAddress text)

end Config

end NodeWatch
