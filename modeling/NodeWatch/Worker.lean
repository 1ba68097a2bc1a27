import NodeWatch.Log
import NodeWatch.Mailbox

/-!
# Workers

A worker handles the items of a mailbox one by one, in order. An item that fails is logged under the
name of the worker, and the next one is handled. Only cancellation stops a worker, or the end of a
mailbox that nobody sends to any more; cancellation comes before any item that still waits.
-/

namespace NodeWatch

/-- A worker with state `σ` for items `ι` that gives values `ω`. -/
structure Worker (σ ι ω : Type) where
  name : String
  /-- The next state, the values given, and the error of an item that fails. -/
  handle : σ → ι → σ × List ω × Option String

namespace Worker

variable {σ ι ω : Type}

def failure (name error : String) : LogRecord :=
  .error s!"error in handler `{name}`: {error}"

/-- Handles one item: the next state, the values given, and what is logged. -/
def step (w : Worker σ ι ω) (state : σ) (item : ι) : σ × List ω × List LogRecord :=
  let (state, values, error) := w.handle state item
  (state, values, (error.map (failure w.name)).toList)

/-- Handles items in order. -/
def runAll (w : Worker σ ι ω) (state : σ) : List ι → σ × List ω × List LogRecord
  | [] => (state, [], [])
  | item :: items =>
    let (state, values, logs) := w.step state item
    let (state, moreValues, moreLogs) := w.runAll state items
    (state, values ++ moreValues, logs ++ moreLogs)

end Worker

/-- A worker's state, its mailbox, and how it may end. -/
structure Workplace (σ ι : Type) where
  state : σ
  mailbox : Mailbox ι
  /-- Whether somebody may still send. -/
  hasSender : Bool := true
  isCancelled : Bool := false

namespace Workplace

variable {σ ι ω : Type}

def isFinished (p : Workplace σ ι) : Bool :=
  p.mailbox.isClosed

/-- Offers an item without waiting; tells whether it was accepted. -/
def trySend (p : Workplace σ ι) (item : ι) : Bool × Workplace σ ι :=
  if !p.hasSender then (false, p)
  else
    let (accepted, mailbox) := p.mailbox.trySend item
    (accepted, { p with mailbox })

/-- Lets the worker go on until nothing is left to do. -/
def rest (w : Worker σ ι ω) (p : Workplace σ ι) : Workplace σ ι × List ω × List LogRecord :=
  if p.isFinished then (p, [], [])
  else if p.isCancelled then ({ p with mailbox := p.mailbox.close }, [], [])
  else
    let (items, mailbox) := p.mailbox.drain
    let (state, values, logs) := w.runAll p.state items
    ({ p with state, mailbox := if p.hasSender then mailbox else mailbox.close }, values, logs)

end Workplace

end NodeWatch
