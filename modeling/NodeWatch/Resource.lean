import NodeWatch.Files.Path

/-!
# Resources

A resource is something that gives lines: the kernel log, the journal of a unit, a file. Its address
is a kind and a list of parts, as many as the kind takes. Addresses are equal if kind and parts are.
-/

namespace NodeWatch.Resource

inductive Kind where
  | kernelLog
  | journal
  | file
  deriving DecidableEq, Repr

def Kind.name : Kind → String
  | kernelLog => "dmesg"
  | journal => "journal"
  | file => "file"

/-- How many parts an address of the kind has: the name of a unit, the path of a file. -/
def Kind.partCount : Kind → Nat
  | kernelLog => 0
  | journal => 1
  | file => 1

structure Address where
  kind : Kind
  parts : List String
  deriving DecidableEq, Repr

namespace Address

def kernelLog : Address :=
  ⟨.kernelLog, []⟩

def journal (unit : String) : Address :=
  ⟨.journal, [unit]⟩

/-- The address of a file; bytes of the path that are not text become U+FFFD. -/
def file (path : Files.Path) : Address :=
  ⟨.file, [path.display]⟩

/-- Whether the address has as many parts as its kind takes. -/
def isComplete (a : Address) : Bool :=
  a.parts.length == a.kind.partCount

def toText (a : Address) : String :=
  if a.parts.isEmpty then a.kind.name
  else a.kind.name ++ ":" ++ "/".intercalate a.parts

end Address

inductive SubscribeError where
  /-- The address has more or fewer parts than its kind takes. -/
  | partCount (address : Address)
  | unavailable (address : Address) (reason : String)
  deriving DecidableEq, Repr

def SubscribeError.message : SubscribeError → String
  | partCount a =>
    s!"resource `{a.toText}` expects {a.kind.partCount} part(s), but got {a.parts.length}"
  | unavailable a reason => s!"resource `{a.toText}` is unavailable: {reason}"

end NodeWatch.Resource
