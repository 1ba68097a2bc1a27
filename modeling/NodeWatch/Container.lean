import NodeWatch.Files.Tree
import NodeWatch.Text.Lines
import NodeWatch.Text.Search

/-!
# Signs of a container

What tells an agent that it runs in a container: the host's first process lives in another PID
namespace, or the agent's control groups name a container runtime.
-/

namespace NodeWatch.Container

open Files Text

inductive Error where
  | existence (path : Path) (fault : Fault)
  | readLink (path : Path) (fault : Fault)
  deriving DecidableEq, Repr

def Error.message : Error → String
  | existence path fault => s!"failed to check if path `{path.display}` exists: {fault.message}"
  | readLink path fault => s!"failed to read symlink `{path.display}`: {fault.message}"

/-- Whether something is mounted at `proc` below a directory. -/
def hasProcMount (files : Tree) (root : Path) : Except Error Bool :=
  let path := root.join (.ofText "proc")
  (files.isThere path).mapError (.existence path)

def readNamespace (files : Tree) (path : Path) : Except Error Path :=
  (files.readLink path).mapError (.readLink path)

/-- Whether the first process below a directory lives in another PID namespace than the agent. -/
def isPidNamespaceIsolated (files : Tree) (root : Path) : Except Error Bool := do
  let own ← readNamespace files (.ofText "/proc/self/ns/pid")
  let first ← readNamespace files (root.join (.ofText "proc/1/ns/pid"))
  pure (!own.sameAs first)

/-- Names that container runtimes leave in control groups. -/
def runtimeMarkers : List String :=
  ["kubepods", "containerd", "docker", "libpod"]

/-- A hexadecimal digit of ASCII, in upper or lower case. -/
def isHexDigit (c : Char) : Bool :=
  c.isDigit || ('a' ≤ c && c ≤ 'f') || ('A' ≤ c && c ≤ 'F')

/-- Whether a part of a path looks like the number of a container: at least 32 hexadecimal digits. -/
def isContainerId (part : List Char) : Bool :=
  32 ≤ part.length && part.all isHexDigit

/-- Whether a line names a runtime, or a container between the separators of control groups. -/
def lineMentionsRuntime (line : List Char) : Bool :=
  runtimeMarkers.any (fun marker => contains marker.toList line) ||
    (line.splitOnP fun c => c == '/' || c == ':' || c == '-' || c == '.').any isContainerId

def mentionsRuntime (text : List Char) : Bool :=
  (lines text).any lineMentionsRuntime

inductive Evidence where
  | pidNamespace
  | controlGroup
  | marker
  deriving DecidableEq, Repr

def Evidence.name : Evidence → String
  | pidNamespace => "isolated PID namespace"
  | controlGroup => "container cgroup"
  | marker => "container marker"

/-- The first sign of a container, where a check that fails counts for nothing. The last two signs
are found outside the file tree below `root`. -/
def evidence? (files : Tree) (root : Path) (hasControlGroup hasMarker : Bool) : Option Evidence :=
  let isolated := do
    if ← hasProcMount files root then isPidNamespaceIsolated files root else pure false
  match isolated with
  | .ok true => some .pidNamespace
  | _ =>
    if hasControlGroup then some .controlGroup
    else if hasMarker then some .marker
    else none

end NodeWatch.Container
