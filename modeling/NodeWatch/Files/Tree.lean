import NodeWatch.Files.Fault
import NodeWatch.Files.Path
import NodeWatch.Text.Utf8

/-!
# The file tree

Files, directories and symbolic links, each with a number of its own that it keeps when it is
renamed or removed. A removed file keeps its content for those who have it open. Paths are resolved
from the root directory, through at most forty links.
-/

namespace NodeWatch.Files

open Text

/-- The number of a file, a directory or a link. -/
abbrev Inode := Nat

inductive Node where
  | file (data : Bytes)
  | directory (entries : List (Bytes × Inode))
  | link (target : Bytes)

/-- The nodes by number; the root directory has number 0. -/
structure Tree where
  nodes : Array Node

namespace Tree

/-- The tree with an empty root directory. -/
def empty : Tree :=
  ⟨#[.directory []]⟩

def node? (t : Tree) (i : Inode) : Option Node :=
  t.nodes[i]?

/-- The entries of a directory. -/
def entries? (t : Tree) (i : Inode) : Option (List (Bytes × Inode)) :=
  match t.node? i with
  | some (.directory entries) => some entries
  | _ => none

/-- The content of a file. -/
def data? (t : Tree) (i : Inode) : Option Bytes :=
  match t.node? i with
  | some (.file data) => some data
  | _ => none

/-- The greatest length of a name. -/
def longestName : Nat := 255

/-- A path has fewer bytes than this. -/
def pathLimit : Nat := 4096

/-- A path leads through at most this many links. -/
def mostLinks : Nat := 40

/-- The names on the way of a path. A slash at the end asks for a directory. -/
def steps (path : Path) : List Bytes :=
  path.names ++ if path.endsWithSlash && !path.names.isEmpty then [[dot]] else []

/-- Follows names from a directory. `trail` holds the directories from the current one up to the
root; a link at the end is followed if `follow` is true, and `links` more links may be. -/
def walk (t : Tree) (follow : Bool) (links : Nat) (trail : List Inode) (names : List Bytes) :
    Except Fault Inode :=
  let current := trail.headD 0
  match names with
  | [] => .ok current
  | name :: rest =>
    match t.entries? current with
    | none => .error .notDirectory
    | some entries =>
      if name == [dot] then walk t follow links trail rest
      else if name == [dot, dot] then
        walk t follow links (if trail.length ≤ 1 then trail else trail.tail) rest
      else if longestName < name.length then .error .nameTooLong
      else match entries.lookup name with
        | none => .error .notFound
        | some i => match t.node? i with
          | some (.link target) =>
            if rest.isEmpty && !follow then .ok i
            else match links with
              | 0 => .error .tooManyLinks
              | links + 1 =>
                if target.isEmpty then .error .notFound
                else
                  let trail := if Path.isAbsolute ⟨target⟩ then [0] else trail
                  walk t follow links trail (steps ⟨target⟩ ++ rest)
          | _ => walk t follow links (i :: trail) rest
termination_by (links, names.length)

/-- What a path names; a link at its end is followed if `follow` is true. -/
def locate (t : Tree) (follow : Bool) (path : Path) : Except Fault Inode :=
  if path.bytes.contains 0 then .error .zeroInName
  else if path.bytes.isEmpty then .error .notFound
  else if pathLimit ≤ path.bytes.length then .error .nameTooLong
  else walk t follow mostLinks [0] (steps path)

/-- What a path leads to. -/
def resolve (t : Tree) (path : Path) : Except Fault Inode :=
  t.locate true path

/-- The number and the length of what a path leads to. -/
def stat (t : Tree) (path : Path) : Except Fault (Inode × Nat) := do
  let i ← t.resolve path
  pure (i, ((t.data? i).map List.length).getD 0)

/-- Whether a path leads to something. -/
def isThere (t : Tree) (path : Path) : Except Fault Bool :=
  match t.resolve path with
  | .ok _ => .ok true
  | .error .notFound => .ok false
  | .error fault => .error fault

def read (t : Tree) (path : Path) : Except Fault Bytes := do
  let i ← t.resolve path
  match t.data? i with
  | some data => pure data
  | none => throw .isDirectory

def readText (t : Tree) (path : Path) : Except Fault (List Char) := do
  match decode (← t.read path) with
  | .ok text => pure text
  | .error _ => throw .notText

/-- The names in a directory. -/
def list (t : Tree) (path : Path) : Except Fault (List Bytes) := do
  let i ← t.resolve path
  match t.entries? i with
  | some entries => pure (entries.map Prod.fst)
  | none => throw .notDirectory

/-- The target of a link. -/
def readLink (t : Tree) (path : Path) : Except Fault Path := do
  let i ← t.locate false path
  match t.node? i with
  | some (.link target) => pure ⟨target⟩
  | _ => throw .invalidArgument

end Tree

end NodeWatch.Files
