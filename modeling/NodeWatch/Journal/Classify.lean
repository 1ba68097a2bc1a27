import NodeWatch.Condition.Reason
import NodeWatch.Text.Lines
import NodeWatch.Text.Search

/-!
# What a line of the kubelet's journal reports

The kubelet says in two ways that the node has run out of process numbers or memory: a command could
not be started, or a thread could not be created. Either report stands within one stretch without a
line feed.
-/

namespace NodeWatch.Journal

open Text

/-- Whether some stretch has `first` and, later, `second`. -/
def hasBoth (first second : String) (line : List Char) : Bool :=
  (stretches line).any fun stretch =>
    ((after? first.toList stretch).map (contains second.toList)).getD false

/-- Whether the line reports that no process or no thread could be made. An error number counts if
its digits start with 11. -/
def reportsExhaustion (line : List Char) : Bool :=
  hasBoth "fork/exec" "resource temporarily unavailable" line ||
    hasBoth "failed to create new OS thread" "errno=11" line

def exhaustionCondition : Condition :=
  Reason.forkFailedOutOfPids.condition
    "A fork or exec call has failed due to the system being out of process IDs or memory"

/-- The condition that a line of the kubelet's journal reports, if any. -/
def classify? (line : List Char) : Option Condition :=
  if reportsExhaustion line then some exhaustionCondition else none

end NodeWatch.Journal
