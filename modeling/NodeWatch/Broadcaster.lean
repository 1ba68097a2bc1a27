/-!
# Fanning out lines

A broadcaster gives each line to all its subscribers. A subscriber that has no room for a line
misses it, and nobody waits for it. A subscriber that has gone is forgotten at the next line.
-/

namespace NodeWatch

/-- The number of a stream of lines. -/
abbrev StreamId := Nat

structure Subscriber where
  stream : StreamId
  capacity : Nat
  /-- Lines that the subscriber has not taken yet, oldest first. -/
  waiting : List String := []
  isAlive : Bool := true
  deriving DecidableEq, Repr

namespace Subscriber

def hasRoom (s : Subscriber) : Bool :=
  s.waiting.length < s.capacity

/-- Gives a line to a subscriber, if there is room for it. -/
def offer (s : Subscriber) (line : String) : Subscriber :=
  if s.hasRoom then { s with waiting := s.waiting ++ [line] } else s

end Subscriber

structure Broadcaster where
  subscribers : List Subscriber := []
  deriving DecidableEq, Repr

namespace Broadcaster

def subscribe (b : Broadcaster) (stream : StreamId) (capacity : Nat) : Broadcaster :=
  { subscribers := b.subscribers ++ [{ stream, capacity }] }

/-- Forgets the subscribers that have gone. -/
def prune (b : Broadcaster) : Broadcaster :=
  { subscribers := b.subscribers.filter Subscriber.isAlive }

/-- Whether no subscriber is left. -/
def isIdle (b : Broadcaster) : Bool :=
  b.prune.subscribers.isEmpty

/-- What became of a line. -/
structure Delivery where
  delivered : Nat
  missed : Nat
  deriving DecidableEq, Repr

/-- Gives a line to every subscriber that has room. -/
def send (b : Broadcaster) (line : String) : Delivery × Broadcaster :=
  let subscribers := b.prune.subscribers
  let delivered := subscribers.countP Subscriber.hasRoom
  (⟨delivered, subscribers.length - delivered⟩,
    { subscribers := subscribers.map fun s => s.offer line })

/-- Changes the subscriber with the given stream. -/
def modify (b : Broadcaster) (stream : StreamId) (f : Subscriber → Subscriber) : Broadcaster :=
  { subscribers := b.subscribers.map fun s => if s.stream = stream then f s else s }

/-- The lines that wait in a stream. -/
def waiting (b : Broadcaster) (stream : StreamId) : List String :=
  ((b.subscribers.find? fun s => s.stream == stream).map Subscriber.waiting).getD []

/-- Takes all lines that wait in a stream. -/
def take (b : Broadcaster) (stream : StreamId) : List String × Broadcaster :=
  (b.waiting stream, b.modify stream fun s => { s with waiting := [] })

/-- Takes the oldest line of a stream. -/
def takeOne (b : Broadcaster) (stream : StreamId) : Option String × Broadcaster :=
  ((b.waiting stream).head?, b.modify stream fun s => { s with waiting := s.waiting.tail })

/-- The receiver of a stream goes away. -/
def leave (b : Broadcaster) (stream : StreamId) : Broadcaster :=
  b.modify stream fun s => { s with isAlive := false }

end Broadcaster

end NodeWatch
