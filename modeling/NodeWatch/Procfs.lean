import NodeWatch.Files.Tree
import NodeWatch.Rootfs
import NodeWatch.Text.Decimal
import NodeWatch.Text.Search
import NodeWatch.Text.Space

/-!
# The process table

Kernel settings, open files, processes, their states and environments, as files below `/proc` of the
host give them.
-/

namespace NodeWatch.Procfs

open Files Text

inductive Error where
  | read (path : Path) (fault : Fault)
  | list (path : Path) (fault : Fault)
  /-- A setting has another form than its reader expects. -/
  | setting (name value : String)
  /-- The line on a process has no state in it. -/
  | state (pid : Nat) (line : String)
  deriving DecidableEq, Repr

def Error.message : Error → String
  | read path fault => s!"failed to read file `{path.display}`: {fault.message}"
  | list path fault => s!"failed to list directory `{path.display}`: {fault.message}"
  | setting name value => s!"invalid value for sysctl `{name}`: `{value}`"
  | state pid line => s!"invalid stat line for pid {pid}: `{line}`"

/-- Whether the process ended while it was looked at. -/
def Error.isVanished : Error → Bool
  | read _ .notFound => true
  | read _ .processGone => true
  | _ => false

def readBytes (files : Tree) (path : Path) : Except Error Bytes :=
  (files.read path).mapError (.read path)

/-- The text of a file without the white space at its ends. -/
def readTrimmed (files : Tree) (path : Path) : Except Error (List Char) :=
  ((files.readText path).map trim).mapError (.read path)

/-- The file of a setting: in its name, dots stand for the slashes of a path below `/proc/sys`. -/
def settingPath (root : Rootfs) (name : String) : Path :=
  let name := name.toList.map fun c => if c = '.' then '/' else c
  (root.join (.ofText "/proc/sys")).join ⟨encode name⟩

def readSetting (files : Tree) (root : Rootfs) (name : String) : Except Error (List Char) :=
  readTrimmed files (settingPath root name)

/-- A setting that holds one value, as `parse` reads it. -/
def parseSetting {α : Type} (parse : List Char → Option α) (files : Tree) (root : Rootfs)
    (name : String) : Except Error α := do
  let value ← readSetting files root name
  match parse value with
  | some a => pure a
  | none => throw (.setting name (String.ofList value))

/-- How many files are open in the system, and how many may be. -/
structure FileHandles where
  allocated : Nat
  total : Nat
  deriving DecidableEq, Repr

def fileHandlesName : String := "fs.file-nr"

/-- Three fields: files allocated, a number of no interest, and the limit. -/
def FileHandles.parse (text : List Char) : Except Error FileHandles :=
  let invalid := Error.setting fileHandlesName (String.ofList text)
  match fields text with
  | [allocated, _, total] => match count? allocated, count? total with
    | some allocated, some total => .ok ⟨allocated, total⟩
    | _, _ => .error invalid
  | _ => .error invalid

def fileHandles (files : Tree) (root : Rootfs) : Except Error FileHandles := do
  FileHandles.parse (← readSetting files root fileHandlesName)

/-- The process number that an entry of `/proc` is named for. -/
def pid? (name : Bytes) : Option Nat := do
  let name ← decode? name
  unsigned? Word.limit32 name

/-- The process numbers in the order of the directory. -/
def listPids (files : Tree) (root : Rootfs) : Except Error (List Nat) :=
  let path := root.join (.ofText "/proc")
  match files.list path with
  | .ok names => .ok (names.filterMap pid?)
  | .error fault => .error (.list path fault)

def processPath (root : Rootfs) (pid : Nat) (file : String) : Path :=
  root.join (.ofText s!"/proc/{pid}/{file}")

/-- The environment of a process: entries, each ended by a zero byte. -/
def readEnviron (files : Tree) (root : Rootfs) (pid : Nat) : Except Error Bytes :=
  readBytes files (processPath root pid "environ")

/-- The state in a line on a process: the first character after the last closing parenthesis, since
the command in parentheses before it may hold anything. -/
def state? (line : List Char) : Option Char := do
  let rest ← afterLast? [')'] line
  (trimStart rest).head?

/-- The state of a process, such as `R`, `S`, or `Z` for one that has ended. -/
def processState (files : Tree) (root : Rootfs) (pid : Nat) : Except Error Char := do
  let line ← readTrimmed files (processPath root pid "stat")
  match state? line with
  | some c => pure c
  | none => throw (.state pid (String.ofList line))

end NodeWatch.Procfs
