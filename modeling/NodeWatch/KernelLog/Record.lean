import NodeWatch.Text.Decimal
import NodeWatch.Text.Search
import NodeWatch.Text.Space

/-!
# Records of the kernel ring buffer

A record is a header, a semicolon and a message. The third field of the header, between commas, is
the time since boot in microseconds. A record that starts with a space continues the one before it
with key and value pairs and is skipped.
-/

namespace NodeWatch.KernelLog

open Text

structure Record where
  micros : Nat
  message : List Char
  deriving DecidableEq, Repr

/-- Reads a record; the message is all that follows the first semicolon. -/
def Record.parse? (text : List Char) : Option Record := do
  guard (text.head? ≠ some ' ')
  let (header, message) ← cut? [';'] text
  let time ← (header.splitOn ',')[2]?
  let micros ← count? time
  pure ⟨micros, message⟩

/-- The line shown for a record: seconds and microseconds since boot, then the message without the
white space at its end. -/
def Record.line (r : Record) : List Char :=
  '[' :: padded 5 ' ' (r.micros / 1000000) ++ '.' :: padded 6 '0' (r.micros % 1000000) ++
    ']' :: ' ' :: trimEnd r.message

/-- The line shown for the text of a record. -/
def recordLine? (text : List Char) : Option (List Char) :=
  (Record.parse? text).map Record.line

end NodeWatch.KernelLog
