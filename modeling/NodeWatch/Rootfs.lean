import NodeWatch.Files.Path

/-!
# The root of the host's file system

The agent may see the host's files below a directory of its own. Paths of the host are resolved
below that directory.
-/

namespace NodeWatch

open Files

structure Rootfs where
  path : Path
  deriving DecidableEq, Repr

namespace Rootfs

/-- The root directory itself, for an agent that runs on the host. -/
def host : Rootfs :=
  ⟨.ofText "/"⟩

/-- A path of the host below the root; a relative path is joined as it is. -/
def join (r : Rootfs) (path : Path) : Path :=
  r.path.join path.fromRoot

/-- Whether the root is the root directory, however it is spelled. -/
def isHost (r : Rootfs) : Bool :=
  r.path.sameAs host.path

end Rootfs

end NodeWatch
