import NodeWatch.Observer
import NodeWatch.Table

/-!
# The hub of observers

The hub has one observer for each address that somebody subscribes to. A subscription finds or makes
the observer, enters a stream, and starts the observer if the hub runs. When a monitor fails to
register, the observers it asked for go, unless somebody else still listens to them.

Each of these operations is a sequence of steps that are atomic on their own; what is done in
between by others shows. Observers are kept under their numbers also after they have left the
directory, for a step that still holds one.
-/

namespace NodeWatch

open Files Resource

/-- The number of an observer, in the order in which they are made. -/
abbrev ObserverId := Nat

structure Hub where
  root : Rootfs
  /-- All observers ever made, by number. -/
  observers : List Observer := []
  /-- The observer of each address. -/
  directory : Table Address ObserverId := {}
  /-- Whether observers start as soon as they are subscribed to. -/
  isRunning : Bool := false
  /-- Whether everything has been told to stop. -/
  isCancelled : Bool := false
  /-- The observers whose sources have been started, in order. -/
  started : List ObserverId := []
  nextStream : StreamId := 0

namespace Hub

/-- A hub without observers. -/
def new (root : Rootfs) : Hub :=
  { root := root }

/-- A subscriber may leave this many lines waiting. -/
def streamCapacity : Nat := 1000

def observer? (h : Hub) (id : ObserverId) : Option Observer :=
  h.observers[id]?

def lookup? (h : Hub) (a : Address) : Option ObserverId :=
  h.directory.get? a

/-- How many resources are observed. -/
def size (h : Hub) : Nat :=
  h.directory.size

def modify (h : Hub) (id : ObserverId) (f : Observer → Observer) : Hub :=
  { h with observers := h.observers.modify id f }

/-- Finds the observer of an address, or makes one. -/
def findOrMake (h : Hub) (a : Address) : Except SubscribeError (ObserverId × Hub) :=
  match h.lookup? a with
  | some id => .ok (id, h)
  | none => match LineSource.ofAddress h.root a with
    | .error e => .error e
    | .ok source =>
      let id := h.observers.length
      .ok (id, { h with
        observers := h.observers ++ [{ address := a, source }]
        directory := h.directory.set a id })

/-- Enters a new stream at an observer. -/
def enter (h : Hub) (id : ObserverId) : StreamId × Hub :=
  let h' := h.modify id fun o =>
    { o with broadcaster := o.broadcaster.subscribe h.nextStream streamCapacity }
  (h.nextStream, { h' with nextStream := h.nextStream + 1 })

/-- Starts the source of an observer, unless it has been started before. -/
def startObserver (h : Hub) (id : ObserverId) : Hub :=
  match h.observer? id with
  | none => h
  | some o =>
    if o.isStarted then h
    else { h.modify id fun o => { o with isStarted := true } with started := h.started ++ [id] }

def startIfRunning (h : Hub) (id : ObserverId) : Hub :=
  if h.isRunning then h.startObserver id else h

/-- Takes the observer of an address out of the directory if nobody listens to it. -/
def removeIfIdle (h : Hub) (a : Address) : Option ObserverId × Hub :=
  match h.lookup? a with
  | none => (none, h)
  | some id => match h.observer? id with
    | none => (none, h)
    | some o =>
      let h := h.modify id fun o => { o with broadcaster := o.broadcaster.prune }
      if o.broadcaster.isIdle then
        (some id, { h with directory := h.directory.erase a })
      else (none, h)

/-- Stops the source of an observer, if it has been started. -/
def stopObserver (h : Hub) (id : ObserverId) : Hub :=
  h.modify id fun o => if o.isStarted then { o with isStopped := true } else o

def setRunning (h : Hub) : Hub :=
  { h with isRunning := true }

/-- Subscribes to an address. -/
def subscribe (h : Hub) (a : Address) : Except SubscribeError (StreamId × Hub) := do
  let (id, h) ← h.findOrMake a
  let (stream, h) := h.enter id
  pure (stream, h.startIfRunning id)

/-- Subscribes to addresses in order, up to the first that fails. Gives the streams, each with its
address, the error if there is one, and the hub after all of it. -/
def subscribeAll (h : Hub) : List Address → List (Address × StreamId) × Option SubscribeError × Hub
  | [] => ([], none, h)
  | a :: addresses => match h.subscribe a with
    | .error e => ([], some e, h)
    | .ok (stream, h) =>
      let (streams, error, h) := h.subscribeAll addresses
      ((a, stream) :: streams, error, h)

/-- Lets go of one address. -/
def releaseOne (h : Hub) (a : Address) : Hub :=
  match h.removeIfIdle a with
  | (some id, h) => h.stopObserver id
  | (none, h) => h

/-- Lets go of the addresses that a failed monitor asked for. -/
def release (h : Hub) (addresses : List Address) : Hub :=
  addresses.foldl releaseOne h

/-- Starts every observer of the directory, and from now on every new one. -/
def start (h : Hub) : Hub :=
  h.directory.values.foldl startObserver h.setRunning

def cancel (h : Hub) : Hub :=
  { h with isCancelled := true }

/-- The receivers of streams go away. -/
def leave (h : Hub) (streams : List StreamId) : Hub :=
  { h with observers := h.observers.map fun o =>
      { o with broadcaster := streams.foldl Broadcaster.leave o.broadcaster } }

/-- The lines that wait in a stream. -/
def waiting (h : Hub) (stream : StreamId) : List String :=
  h.observers.flatMap fun o => o.broadcaster.waiting stream

/-- Takes all lines that wait in a stream. -/
def take (h : Hub) (stream : StreamId) : List String × Hub :=
  (h.waiting stream, { h with observers := h.observers.map fun o =>
      { o with broadcaster := (o.broadcaster.take stream).2 } })

/-- Takes the oldest line of a stream. -/
def takeOne (h : Hub) (stream : StreamId) : Option String × Hub :=
  (h.observers.findSome? fun o => (o.broadcaster.takeOne stream).1,
    { h with observers := h.observers.map fun o =>
      { o with broadcaster := (o.broadcaster.takeOne stream).2 } })

/-- Registers a monitor that subscribes to addresses in order and gives up at the first error;
`refusal` is the error that it ends with if all could be had. After an error its streams go away, and
the observers that nobody else listens to go with them. -/
def register (h : Hub) (addresses : List Address) (refusal : Option SubscribeError) :
    Except SubscribeError (List StreamId) × Hub :=
  let (streams, error, h) := h.subscribeAll addresses
  match error.or refusal with
  | none => (.ok (streams.map Prod.snd), h)
  | some e => (.error e, (h.leave (streams.map Prod.snd)).release (streams.map Prod.fst))

/-- Every source looks once; what the sources read arrives at the observers. -/
def look (h : Hub) (files : Tree) : Hub × List LogRecord :=
  let looks := h.observers.map (Observer.look files h.isCancelled)
  ({ h with observers := looks.map Prod.fst }, looks.flatMap Prod.snd)

/-- So many reads have arrived where most of them have. -/
def arrivals (h : Hub) : Nat :=
  h.observers.foldl (fun n o => max n o.arrived.length) 0

/-- Every observer fans out the lines of its next read. -/
def deliver (h : Hub) : Hub × List LogRecord :=
  let deliveries := h.observers.map Observer.deliver
  ({ h with observers := deliveries.map Prod.fst }, deliveries.flatMap Prod.snd)

end Hub

end NodeWatch
