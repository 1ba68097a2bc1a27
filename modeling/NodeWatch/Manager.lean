import NodeWatch.Listener

/-!
# The manager

The manager registers monitors, gives them the lines of the resources they subscribe to, and takes
their conditions. Conditions wait in a mailbox until the manager is started; then they are exported
in the order in which they came, until the manager is cancelled or dropped.
-/

namespace NodeWatch

open Files Resource

/-- The life of a manager. -/
inductive Phase where
  /-- Monitors can be registered. -/
  | fresh
  /-- Started, but its loop has not begun. -/
  | launched
  | running
  /-- Cancelled after its start, or dropped. -/
  | gone
  deriving DecidableEq, Repr

structure Manager where
  hub : Hub
  mailbox : Mailbox Notification
  exporter : Exporter := {}
  phase : Phase := .fresh
  kernels : List KernelListener := []

/-- What happens while time passes: exported records, and other log records. -/
structure Activity where
  exported : List LogRecord := []
  logs : List LogRecord := []

def Activity.append (a b : Activity) : Activity :=
  ⟨a.exported ++ b.exported, a.logs ++ b.logs⟩

namespace Manager

/-- So many conditions may wait for export. -/
def mailboxCapacity : Nat := 100

def new (root : Rootfs) : Manager :=
  { hub := .new root, mailbox := { capacity := mailboxCapacity } }

/-- Registers a monitor that only subscribes to addresses; gives its streams. -/
def register (m : Manager) (addresses : List Address) :
    Except SubscribeError (List StreamId) × Manager :=
  let (result, hub) := m.hub.register addresses none
  (result, { m with hub })

/-- Registers the kernel monitor. -/
def registerKernel (m : Manager) : Except SubscribeError Unit × Manager :=
  let root := m.hub.root
  match m.register (Monitor.Kernel.addresses root) with
  | (.error e, m) => (.error e, m)
  | (.ok streams, m) =>
    let kernel : Monitor.Kernel := { root, isCancelled := m.hub.isCancelled }
    (.ok (), { m with kernels := m.kernels ++ [.new kernel streams] })

/-- A registered monitor subscribes to more addresses, up to the first error; it keeps the streams
it got before. -/
def subscribe (m : Manager) (addresses : List Address) :
    List StreamId × Option SubscribeError × Manager :=
  let (streams, error, hub) := m.hub.subscribeAll addresses
  (streams.map Prod.snd, error, { m with hub })

/-- A monitor gives up streams. -/
def leave (m : Manager) (streams : List StreamId) : Manager :=
  { m with hub := m.hub.leave streams }

/-- Takes the lines that wait in a stream. -/
def take (m : Manager) (stream : StreamId) : List String × Manager :=
  let (lines, hub) := m.hub.take stream
  (lines, { m with hub })

/-- Exports everything in the mailbox, if the manager runs. -/
def exportAll (m : Manager) : Activity × Manager :=
  match m.phase with
  | .running =>
    let (notifications, mailbox) := m.mailbox.drain
    let (exported, exporter) := m.exporter.takeAll notifications
    ({ exported }, { m with mailbox, exporter })
  | _ => ({}, m)

/-- A monitor notifies a condition. A call that would have to wait shows as waiting. -/
def notify (m : Manager) (n : Notification) : SendResult × Manager :=
  let (result, mailbox) := m.mailbox.send n
  (result, { m with mailbox })

/-- A waiting call is given up. -/
def withdraw (m : Manager) (ticket : Nat) : Manager :=
  { m with mailbox := m.mailbox.withdraw ticket }

/-- Starts the manager; its loop begins when time passes. -/
def launch (m : Manager) : Manager :=
  if m.phase = .fresh then { m with phase := .launched } else m

/-- Cancels everything; a running loop ends when time passes. -/
def cancel (m : Manager) : Manager :=
  { m with
    hub := m.hub.cancel
    kernels := m.kernels.map fun k => { k with kernel := k.kernel.cancel } }

/-- Drops a manager that has not been started. -/
def drop (m : Manager) : Manager :=
  if m.phase = .fresh then { m with phase := .gone, mailbox := m.mailbox.close } else m

/-- The loop of a started manager begins by starting the observers. -/
def beginLoop (m : Manager) : Manager :=
  if m.phase = .launched then { m with hub := m.hub.start, phase := .running } else m

/-- A running loop ends once everything has been cancelled; what still waits is lost. -/
def endLoop (m : Manager) : Manager :=
  if m.phase = .running && m.hub.isCancelled then
    { m with phase := .gone, mailbox := m.mailbox.close }
  else m

/-- Lets the loop of a started manager see that it has been started or cancelled. -/
def settle (m : Manager) : Manager :=
  m.beginLoop.endLoop

/-- Cancelled kernel monitors give up their streams. -/
def retireKernels (m : Manager) : Manager :=
  let (gone, kept) := m.kernels.partition fun listener => listener.kernel.isCancelled
  { m.leave (gone.flatMap KernelListener.streams) with kernels := kept }

/-- The worker of listener `i` for its stream number `j` takes a turn; tells whether it is blocked. -/
def takeTurn (m : Manager) (promised j i : Nat) : Bool × List LogRecord × Manager :=
  match m.kernels[i]? with
  | none => (false, [], m)
  | some listener => match listener.workers[j]? with
    | none => (false, [], m)
    | some worker =>
      let (t, isBlocked) := Turn.run promised Turn.units
        { hub := m.hub, mailbox := m.mailbox, kernel := listener.kernel, worker }
      let listener := { kernel := t.kernel, workers := listener.workers.set j t.worker }
      (isBlocked, t.logs,
        { m with hub := t.hub, mailbox := t.mailbox, kernels := m.kernels.set i listener })

/-- The workers of listeners take turns in order; gives those that are blocked. If they were blocked
before, each of them has been promised a place in the mailbox. -/
def takeTurns (wereBlocked : Bool) (j : Nat) : List Nat → Manager →
    List Nat × List LogRecord × Manager
  | [], m => ([], [], m)
  | i :: listeners, m =>
    let (isBlocked, logs, m) := m.takeTurn (if wereBlocked then listeners.length else 0) j i
    let (blocked, more, m) := takeTurns wereBlocked j listeners m
    (if isBlocked then i :: blocked else blocked, logs ++ more, m)

/-- The workers of listeners take turns, and what is in the mailbox is exported; blocked workers go on
then, so many times. -/
def workAndExport (wereBlocked : Bool) (j : Nat) (listeners : List Nat) :
    Nat → Manager → Activity × Manager
  | 0, m => ({}, m)
  | times + 1, m =>
    let (blocked, logs, m) := takeTurns wereBlocked j listeners m
    let (activity, m) := m.exportAll
    let activity := Activity.append { logs } activity
    if blocked.isEmpty then (activity, m)
    else
      let (more, m) := workAndExport true j blocked times m
      (activity.append more, m)

/-- Every observer fans out the lines of its next read, and every line worker takes a turn: those of
the first stream first. -/
def cycle (m : Manager) : Activity × Manager :=
  let (hub, missed) := m.hub.deliver
  (List.range Monitor.sources.length).foldl (fun (activity, m) j =>
      let listeners := List.range m.kernels.length
      let (more, m) := workAndExport false j listeners (listeners.length + 1) m
      (activity.append more, m))
    ({ logs := missed }, { m with hub })

/-- Cycles one after the other. -/
def cycles : Nat → Manager → Activity × Manager
  | 0, m => ({}, m)
  | n + 1, m =>
    let (activity, m) := m.cycle
    let (more, m) := cycles n m
    (activity.append more, m)

/-- So many lines and conditions wait for the line workers. -/
def backlog (m : Manager) : Nat :=
  m.kernels.foldl (fun n listener => n + listener.backlog m.hub) 0

/-- Cycles until nothing waits for the line workers, but not more than `n`. -/
def catchUp : Nat → Manager → Activity × Manager
  | 0, m => ({}, m)
  | n + 1, m =>
    if m.backlog = 0 then ({}, m)
    else
      let (activity, m) := m.cycle
      let (more, m) := catchUp n m
      (activity.append more, m)

/-- One round: every source looks once, and what it reads is fanned out, read by read, while the line
workers take turns. As every turn takes at least one line, in the end nothing is left to take. -/
def round (files : Tree) (m : Manager) : Activity × Manager :=
  let (early, m) := m.exportAll
  let (hub, logs) := m.hub.look files
  let (during, m) := cycles hub.arrivals { m with hub }
  let (late, m) := m.catchUp m.backlog
  (((early.append { logs }).append during).append late, m)

/-- Rounds one after the other. -/
def rounds (files : Tree) (m : Manager) : Nat → Activity × Manager
  | 0 => ({}, m)
  | n + 1 =>
    let (activity, m) := m.round files
    let (more, m) := m.rounds files n
    (activity.append more, m)

/-- The sources look this often between two changes that are some time apart. -/
def roundsPerPause : Nat := 4

/-- Lets some time pass while the files stay as they are. -/
def pause (files : Tree) (m : Manager) : Activity × Manager :=
  m.retireKernels.settle.rounds files roundsPerPause

end Manager

end NodeWatch
