/-!
# Bounded mailboxes

A mailbox holds up to a fixed number of items. A sender that finds it full waits, and waiting senders
are served in the order in which they came. Items leave in the order in which they entered. When the
receiver closes the mailbox, the items in it are lost and every sender is told so.
-/

namespace NodeWatch

/-- A call that waits for room, with the number it was given. -/
structure WaitingCall (α : Type) where
  ticket : Nat
  item : α

structure Mailbox (α : Type) where
  capacity : Nat
  /-- The items in the mailbox, oldest first. -/
  buffered : List α := []
  /-- The senders that wait for room, oldest first. -/
  waiting : List (WaitingCall α) := []
  nextTicket : Nat := 0
  isClosed : Bool := false

/-- What a sender is told at once. -/
inductive SendResult where
  | accepted
  | waits (ticket : Nat)
  | closed
  deriving DecidableEq, Repr

/-- An item taken from a mailbox, and the waiting call that is accepted in its place. -/
structure Receipt (α : Type) where
  item : α
  accepted : Option Nat

namespace Mailbox

variable {α : Type}

/-- Whether an item would be accepted at once and leave room for `promised` more. -/
def hasRoom (m : Mailbox α) (promised : Nat) : Bool :=
  m.isClosed || (m.buffered.length + promised < m.capacity && m.waiting.isEmpty)

/-- A sender offers an item. -/
def send (m : Mailbox α) (item : α) : SendResult × Mailbox α :=
  if m.isClosed then (.closed, m)
  else if m.buffered.length < m.capacity && m.waiting.isEmpty then
    (.accepted, { m with buffered := m.buffered ++ [item] })
  else
    (.waits m.nextTicket,
      { m with waiting := m.waiting ++ [⟨m.nextTicket, item⟩], nextTicket := m.nextTicket + 1 })

/-- A waiting sender gives up. -/
def withdraw (m : Mailbox α) (ticket : Nat) : Mailbox α :=
  { m with waiting := m.waiting.filter fun call => call.ticket != ticket }

/-- Offers an item without waiting; tells whether it was accepted. -/
def trySend (m : Mailbox α) (item : α) : Bool × Mailbox α :=
  match m.send item with
  | (.accepted, m) => (true, m)
  | _ => (false, m)

/-- Takes the oldest item. The sender that has waited longest takes its place and is answered. -/
def receive (m : Mailbox α) : Option (Receipt α) × Mailbox α :=
  match m.buffered, m.waiting with
  | [], _ => (none, m)
  | item :: items, [] => (some ⟨item, none⟩, { m with buffered := items })
  | item :: items, call :: calls =>
    (some ⟨item, some call.ticket⟩, { m with buffered := items ++ [call.item], waiting := calls })

/-- Takes items until none is left, those of waiting senders included. -/
def drain (m : Mailbox α) : List α × Mailbox α :=
  (m.buffered ++ m.waiting.map WaitingCall.item, { m with buffered := [], waiting := [] })

/-- The receiver goes away. -/
def close (m : Mailbox α) : Mailbox α :=
  { m with buffered := [], waiting := [], isClosed := true }

end Mailbox

end NodeWatch
