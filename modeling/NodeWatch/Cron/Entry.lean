import NodeWatch.Cron.Timestamp
import NodeWatch.Text.Search

/-!
# Entries of the cron log

Cron logs each command that it runs: `Sep 17 21:44:01 host CROND[13867]: (root) CMD (/usr/bin/job)`.
A line without the marker ` CMD ` is about something else. A line with the marker has at least seven
fields, of which the first three are the timestamp; the command is what follows the first marker.
-/

namespace NodeWatch.Cron

open Text

structure Entry where
  timestamp : Timestamp
  command : String
  deriving DecidableEq, Repr

/-- What is wrong with a line that has the marker. -/
inductive EntryError where
  | fields (count : Nat) (line : String)
  | timestamp (text : String) (cause : TimestampError)
  deriving DecidableEq, Repr

/-- An entry has at least this many fields. -/
def leastFields : Nat := 7

def EntryError.message : EntryError → String
  | fields count line =>
    s!"expected at least {leastFields} fields in cron log entry, got {count}: `{line}`"
  | timestamp text cause => s!"invalid cron timestamp `{text}`: {cause.message}"

/-- Reads a line; `none` if it records no command. -/
def Entry.parse (line : List Char) : Except EntryError (Option Entry) :=
  match after? " CMD ".toList line with
  | none => .ok none
  | some command =>
    let parts := Text.fields line
    if parts.length < leastFields then .error (.fields parts.length (String.ofList line))
    else
      let stamp := [' '].intercalate (parts.take 3)
      match Timestamp.parse stamp with
      | .ok timestamp => .ok (some ⟨timestamp, String.ofList (trim command)⟩)
      | .error cause => .error (.timestamp (String.ofList stamp) cause)

end NodeWatch.Cron
