import NodeWatch.Condition.Reason
import NodeWatch.Text.Digit
import NodeWatch.Text.Lines
import NodeWatch.Text.Quoted
import NodeWatch.Text.Search
import NodeWatch.Text.Space

/-!
# What a line of the kernel log reports

Five patterns are looked for, in this order: a soft lockup, a kernel bug, a crashed process, a
blocked process, a full connection table. The first one found decides. A pattern must occur within
one stretch without a line feed, except for the white space after `traps:`.
-/

namespace NodeWatch.KernelLog

open Text

/-- What a soft lockup report says about its length. The report is what stands in the first stretch
that has one up to its last closing bracket; the length stands between the last ` stuck for ` that
an opening `! [` follows and the last `! [`. -/
def lockupLength? (line : List Char) : Option (List Char) :=
  (stretches line).findSome? fun stretch => do
    let rest ← after? "watchdog: BUG: soft lockup - ".toList stretch
    let report ← beforeLast? [']'] (fun _ => true) rest
    report |> lastMatch? fun s => do
      let rest ← " stuck for ".toList.isPrefixOf? s
      beforeLast? "! [".toList (fun _ => true) rest

/-- Whether some stretch has an opening bracket and, later, `] BUG: `. -/
def reportsBug (line : List Char) : Bool :=
  (stretches line).any fun stretch =>
    ((after? ['['] stretch).map (contains "] BUG: ".toList)).getD false

/-- The process of a trap report at the front of `s`: what stands between `traps:`, with the white
space after it, and the first opening bracket of the stretch. -/
def trapped? (s : List Char) : Option (List Char) := do
  let rest ← "traps:".toList.isPrefixOf? s
  beforeFirst? ['['] (fun _ => true) ((trimStart rest).takeWhile (· != '\n'))

/-- The process of a segmentation fault report at the front of `s`: white space, a name without
white space and brackets, a process number in brackets, and the report. -/
def faulted? (s : List Char) : Option (List Char) := do
  let inName (c : Char) : Bool := !isSpace c && c != '[' && c != ']'
  guard ((s.head?.map isSpace).getD false)
  let name := s.tail.takeWhile inName
  guard (!name.isEmpty)
  let number ← ['['].isPrefixOf? (s.tail.dropWhile inName)
  guard ((number.head?.map isDecimalDigit).getD false)
  guard ("]: segfault at".toList.isPrefixOf (number.dropWhile isDecimalDigit))
  pure name

/-- The process of the leftmost crash report. Every report has an opening bracket, so a line without
one need not be searched. -/
def crashed? (line : List Char) : Option (List Char) :=
  if line.contains '[' then firstMatch? (fun s => (trapped? s).or (faulted? s)) line else none

/-- Whether `s` starts with a process number and says that the process has been blocked. -/
def startsBlocked (s : List Char) : Bool :=
  (s.head?.map isDecimalDigit).getD false &&
    " blocked for more than".toList.isPrefixOf (s.dropWhile isDecimalDigit)

/-- The process of the leftmost report of a blocked task: the shortest text between `task ` and a
colon that the number of a blocked process follows. -/
def blocked? (line : List Char) : Option (List Char) :=
  (stretches line).findSome? fun stretch => do
    let rest ← after? "task ".toList stretch
    beforeFirst? [':'] startsBlocked rest

/-- Whether packets are dropped because the table of tracked connections is full. -/
def reportsFullTable (line : List Char) : Bool :=
  contains "ip_conntrack: table full, dropping packet".toList line ||
    contains "nf_conntrack: table full, dropping packet".toList line

def lockupCondition (length : List Char) : Condition :=
  Reason.softLockup.condition s!"CPU stuck for {String.ofList length}"

def bugCondition : Condition :=
  Reason.kernelBug.condition "A kernel bug was detected and reported by the Linux kernel"

def crashCondition (process : List Char) : Condition :=
  Reason.appCrash.condition
    s!"Process {String.ofList (Quoted.encode process)} on the node has crashed"

def blockedCondition (process : List Char) : Condition :=
  let name := String.ofList (Quoted.encode process)
  Reason.appBlocked.condition
    s!"Process {name} has been blocked from scheduling for a long period of time"

def fullTableCondition : Condition :=
  Reason.conntrackExceededKernel.condition
    "Connection tracking exceeded the maximum for the kernel"

/-- The condition that a line of the kernel log reports, if any. -/
def classify? (line : List Char) : Option Condition :=
  match lockupLength? line with
  | some length => some (lockupCondition length)
  | none =>
    if reportsBug line then some bugCondition
    else match crashed? line with
      | some process => some (crashCondition process)
      | none => match blocked? line with
        | some process => some (blockedCondition process)
        | none => if reportsFullTable line then some fullTableCondition else none

end NodeWatch.KernelLog
