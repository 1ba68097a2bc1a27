import NodeWatch.Text.Utf8

/-!
# Paths

A path is a sequence of bytes, none of them zero in the name of a file. Slashes separate its
components; repeated slashes and components `.` make no difference to where it leads.
-/

namespace NodeWatch.Files

open Text

structure Path where
  bytes : Bytes
  deriving DecidableEq, Repr

def slash : UInt8 := '/'.toUInt8

def dot : UInt8 := '.'.toUInt8

namespace Path

def ofText (s : String) : Path :=
  ⟨encode s.toList⟩

/-- The path as text, with U+FFFD for what is not text. -/
def display (p : Path) : String :=
  String.ofList (decodeLossy p.bytes)

def isAbsolute (p : Path) : Bool :=
  p.bytes.head? == some slash

def endsWithSlash (p : Path) : Bool :=
  p.bytes.getLast? == some slash

/-- The pieces between the slashes, empty ones left out. -/
def names (p : Path) : List Bytes :=
  (p.bytes.splitOn slash).filter fun name => !name.isEmpty

/-- The names of the components; a `.` counts only at the start of a relative path. -/
def components (p : Path) : List Bytes :=
  match p.names with
  | [] => []
  | first :: rest =>
    (if first == [dot] && p.isAbsolute then [] else [first]) ++ rest.filter (· != [dot])

/-- Whether two paths have the same components. -/
def sameAs (p q : Path) : Bool :=
  p.isAbsolute == q.isAbsolute && p.components == q.components

/-- The path `q` as seen from the directory `p`; an absolute path stands for itself. -/
def join (p q : Path) : Path :=
  if q.isAbsolute then q
  else if p.bytes.isEmpty || p.endsWithSlash then ⟨p.bytes ++ q.bytes⟩
  else ⟨p.bytes ++ slash :: q.bytes⟩

/-- What is left of a path after the slashes and components `.` at its front. -/
def dropFront : Bytes → Bytes
  | [] => []
  | b :: s =>
    if b == slash then dropFront s
    else if b == dot && (s.isEmpty || s.head? == some slash) then dropFront s
    else b :: s

/-- What is left of a path, read from its end, without the slashes and components `.` there. -/
def dropBack : Bytes → Bytes
  | [] => []
  | b :: s =>
    if b == slash then dropBack s
    else if b == dot && s.head? == some slash then dropBack s
    else b :: s

/-- An absolute path as seen from the root directory; a relative path stays as it is. -/
def fromRoot (p : Path) : Path :=
  if p.isAbsolute then ⟨(dropBack (dropFront p.bytes).reverse).reverse⟩ else p

end Path

end NodeWatch.Files
