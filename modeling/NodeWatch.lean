import NodeWatch.Broadcaster
import NodeWatch.Condition
import NodeWatch.Condition.Json
import NodeWatch.Condition.Reason
import NodeWatch.Config
import NodeWatch.Container
import NodeWatch.Cron.Detector
import NodeWatch.Cron.Entry
import NodeWatch.Cron.Timestamp
import NodeWatch.Exporter
import NodeWatch.Files.Change
import NodeWatch.Files.Fault
import NodeWatch.Files.Path
import NodeWatch.Files.Pieces
import NodeWatch.Files.Tail
import NodeWatch.Files.Tree
import NodeWatch.Gate
import NodeWatch.Hub
import NodeWatch.Journal.Classify
import NodeWatch.Journal.Stream
import NodeWatch.Json.Literal
import NodeWatch.Json.Shape
import NodeWatch.Json.Tree
import NodeWatch.Json.Value
import NodeWatch.KernelLog.Classify
import NodeWatch.KernelLog.Follower
import NodeWatch.KernelLog.Record
import NodeWatch.ListenAddress
import NodeWatch.Listener
import NodeWatch.Log
import NodeWatch.Mailbox
import NodeWatch.Manager
import NodeWatch.Monitor.Kernel
import NodeWatch.Monitor.Outcome
import NodeWatch.Monitor.Processes
import NodeWatch.Monitor.Usage
import NodeWatch.Number.Double
import NodeWatch.Number.Word
import NodeWatch.Observer
import NodeWatch.Plugin.Basic
import NodeWatch.Plugin.Crd
import NodeWatch.Plugin.Registry
import NodeWatch.Plugin.Validate
import NodeWatch.Procfs
import NodeWatch.Resource
import NodeWatch.Rootfs
import NodeWatch.Stats
import NodeWatch.Status
import NodeWatch.Table
import NodeWatch.Text.Decimal
import NodeWatch.Text.Digit
import NodeWatch.Text.Lines
import NodeWatch.Text.Quoted
import NodeWatch.Text.Search
import NodeWatch.Text.Space
import NodeWatch.Text.Unprintable
import NodeWatch.Text.Utf8
import NodeWatch.Ticker
import NodeWatch.Worker
import NodeWatch.Proofs.Broadcaster
import NodeWatch.Proofs.Hub.Steps
import NodeWatch.Proofs.Hub.Invariant
import NodeWatch.Proofs.Hub.Session
import NodeWatch.Proofs.Hub.Rollback
import NodeWatch.Proofs.Hub.Calls
import NodeWatch.Proofs.Hub.Interleaving
import NodeWatch.Proofs.Files.Path
import NodeWatch.Proofs.Files.Tail
import NodeWatch.Proofs.Files.Truncation
import NodeWatch.Proofs.Gate
import NodeWatch.Proofs.Stats
import NodeWatch.Proofs.Snapshot
import NodeWatch.Proofs.Exporter
import NodeWatch.Proofs.Debounce
import NodeWatch.Proofs.Delivery
import NodeWatch.Proofs.Text.Search
import NodeWatch.Proofs.Text.Pattern
import NodeWatch.Proofs.Json.Literal
import NodeWatch.Proofs.Json.Tree
import NodeWatch.Proofs.Json.Shape
import NodeWatch.Proofs.Encoding
import NodeWatch.Proofs.Plugin.Registry
import NodeWatch.Proofs.Plugin.Validate
import NodeWatch.Proofs.Mailbox
import NodeWatch.Proofs.Notifications
import NodeWatch.Proofs.KernelLog.Classify
import NodeWatch.Proofs.Journal.Classify
import NodeWatch.Proofs.Cron.Calendar
import NodeWatch.Proofs.Cron.Entry
import NodeWatch.Proofs.Cron.Detector
import NodeWatch.Proofs.Cron.Trace
import NodeWatch.Proofs.Monitor.Handlers
import NodeWatch.Proofs.Monitor.Isolation
import NodeWatch.Proofs.Text.Utf8
import NodeWatch.Proofs.Text.Lossy
import NodeWatch.Proofs.Text.Lines
import NodeWatch.Proofs.Text.Decimal
import NodeWatch.Proofs.Text.Order
import NodeWatch.Proofs.KernelLog.Record
import NodeWatch.Proofs.KernelLog.Line
import NodeWatch.Proofs.Procfs
import NodeWatch.Proofs.Procfs.Setting
import NodeWatch.Proofs.Monitor.Zombies
import NodeWatch.Proofs.Monitor.Environments
import NodeWatch.Proofs.Number.Double
import NodeWatch.Proofs.Files.Descent
import NodeWatch.Proofs.Monitor.Usage
import NodeWatch.Proofs.KernelLog.Follower
import NodeWatch.Proofs.Cron.Timestamp
import NodeWatch.Proofs.Cron.Line
import NodeWatch.Proofs.Resource
import NodeWatch.Proofs.Status
import NodeWatch.Proofs.Hub.Sources
import NodeWatch.Proofs.Gate.Unbounded
import NodeWatch.Proofs.Container
