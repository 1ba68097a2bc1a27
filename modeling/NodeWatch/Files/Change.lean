import NodeWatch.Files.Tree

/-!
# Changes of the file tree

What others do to the files that are watched. A change that cannot be made leaves the tree as it is,
and a new node never takes the number of an old one.
-/

namespace NodeWatch.Files

open Text

inductive Change where
  /-- Writes a file anew, in place if it is there. Under a link that leads to nothing, the file is made
  where the link leads. -/
  | write (path : Path) (data : Bytes)
  | makeDirectory (path : Path)
  | makeLink (path target : Path)
  | append (path : Path) (data : Bytes)
  /-- Cuts a file to a length, or fills it with zero bytes up to it. -/
  | resize (path : Path) (length : Nat)
  | rename (path target : Path)
  | remove (path : Path)

namespace Tree

/-- The directory part of a path and its last name. -/
def splitLast? (path : Path) : Option (Path × Bytes) :=
  match path.names.getLast? with
  | none => none
  | some name =>
    let parent := [slash].intercalate path.names.dropLast
    some (⟨if path.isAbsolute then slash :: parent else if parent.isEmpty then [dot] else parent⟩,
      name)

def setNode (t : Tree) (i : Inode) (node : Node) : Tree :=
  ⟨t.nodes.setIfInBounds i node⟩

/-- Replaces the entries of a directory. -/
def mapEntries (t : Tree) (i : Inode) (f : List (Bytes × Inode) → List (Bytes × Inode)) : Tree :=
  match t.entries? i with
  | some entries => t.setNode i (.directory (f entries))
  | none => t

/-- Takes the entry of a path out of its directory. -/
def unlink (t : Tree) (path : Path) : Tree :=
  match splitLast? path with
  | none => t
  | some (parent, name) => match t.resolve parent with
    | .ok i => t.mapEntries i fun entries => entries.filter (·.1 != name)
    | .error _ => t

/-- Makes a path an entry for node `i`, in place of what it was before. -/
def link (t : Tree) (path : Path) (i : Inode) : Tree :=
  match splitLast? path with
  | none => t
  | some (parent, name) => match t.resolve parent with
    | .ok dir => t.mapEntries dir fun entries => entries.filter (·.1 != name) ++ [(name, i)]
    | .error _ => t

/-- Adds a node under a path whose directory is there. -/
def create (t : Tree) (path : Path) (node : Node) : Tree :=
  link ⟨t.nodes.push node⟩ path t.nodes.size

/-- Makes the directories of a path, from the first to the last, where they are missing. -/
def makeDirectories (t : Tree) (path : Path) : Tree :=
  (List.range path.names.length).foldl (fun t n =>
    let names := [slash].intercalate (path.names.take (n + 1))
    let dir : Path := ⟨if path.isAbsolute then slash :: names else names⟩
    match t.locate false dir with
    | .error .notFound => t.create dir (.directory [])
    | _ => t) t

/-- Makes the directory that a path stands in. -/
def makeParent (t : Tree) (path : Path) : Tree :=
  match splitLast? path with
  | some (parent, _) => t.makeDirectories parent
  | none => t

/-- Where a new file comes to be that is made under a path: links at the end of the path are
followed, so many at most. -/
def destination (t : Tree) : Nat → Path → Path
  | 0, path => path
  | links + 1, path => match t.readLink path, splitLast? path with
    | .ok target, some (parent, _) => t.destination links (parent.join target)
    | _, _ => path

/-- Changes the content of the file that a path leads to. -/
def mapData (t : Tree) (path : Path) (f : Bytes → Bytes) : Tree :=
  match t.resolve path with
  | .ok i => match t.data? i with
    | some data => t.setNode i (.file (f data))
    | none => t
  | .error _ => t

def apply (t : Tree) : Change → Tree
  | .write path data =>
    let t := t.makeParent path
    match t.resolve path with
    | .ok i => match t.data? i with
      | some _ => t.setNode i (.file data)
      | none => t
    | .error .notFound => t.create (t.destination mostLinks path) (.file data)
    | .error _ => t
  | .makeDirectory path => t.makeDirectories path
  | .makeLink path target => (t.makeParent path).create path (.link target.bytes)
  | .append path data => t.mapData path (· ++ data)
  | .resize path length =>
    t.mapData path fun data => data.take length ++ List.replicate (length - data.length) 0
  | .rename path target => match t.locate false path with
    | .ok i => (t.unlink path).link target i
    | .error _ => t
  | .remove path => t.unlink path

end Tree

end NodeWatch.Files
