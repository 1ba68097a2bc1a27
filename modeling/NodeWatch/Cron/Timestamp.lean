import NodeWatch.Text.Decimal
import NodeWatch.Text.Space

/-!
# Timestamps of the cron log

A timestamp is a month name, a day and a time of day, with no year: `Sep 17 21:44:01`. It is read as
a moment of a leap year, so that the 29th of February exists. Before a number or after a part any
white space may stand, or none.
-/

namespace NodeWatch.Cron

open Text

structure Timestamp where
  /-- From 1 to 12. -/
  month : Nat
  day : Nat
  hour : Nat
  minute : Nat
  /-- Up to 60, where 60 is a leap second. -/
  second : Nat
  deriving DecidableEq, Repr

/-- The months by name, with their lengths in a leap year. -/
def months : List (String × Nat) :=
  [("jan", 31), ("feb", 29), ("mar", 31), ("apr", 30), ("may", 31), ("jun", 30), ("jul", 31),
    ("aug", 31), ("sep", 30), ("oct", 31), ("nov", 30), ("dec", 31)]

def daysIn (month : Nat) : Nat :=
  ((months[month - 1]?).map Prod.snd).getD 0

/-- The days of the year before the first of the month. -/
def daysBefore (month : Nat) : Nat :=
  (months.take (month - 1)).foldl (fun days m => days + m.2) 0

/-- Seconds since the start of the year; a leap second counts as the second before it. -/
def Timestamp.seconds (t : Timestamp) : Nat :=
  (((daysBefore t.month + (t.day - 1)) * 24 + t.hour) * 60 + t.minute) * 60 + min t.second 59

/-- Whether `t` is less than the given number of minutes after `last`, or before it. -/
def Timestamp.isWithin (t : Timestamp) (minutes : Nat) (last : Timestamp) : Bool :=
  t.seconds < last.seconds + 60 * minutes

inductive TimestampError where
  | outOfRange
  | invalid
  | tooShort
  | tooLong
  deriving DecidableEq, Repr

def TimestampError.message : TimestampError → String
  | outOfRange => "input is out of range"
  | invalid => "input contains invalid characters"
  | tooShort => "premature end of input"
  | tooLong => "trailing input"

/-- Reads the three letters of a month name, in upper or lower case. -/
def readMonth (s : List Char) : Except TimestampError (Nat × List Char) :=
  if s.length < 3 then .error .tooShort
  else
    let name := String.ofList ((s.take 3).map Char.toLower)
    match months.findIdx? fun m => m.1 == name with
    | some i => .ok (i + 1, s.drop 3)
    | none => .error .invalid

/-- Reads a number of one or two digits in the given range. -/
def readNumber (low high : Nat) (s : List Char) : Except TimestampError (Nat × List Char) :=
  match trimStart s with
  | [] => .error .tooShort
  | a :: s =>
    if !a.isDigit then .error .invalid
    else
      let digits := a :: (s.take 1).takeWhile Char.isDigit
      let n := (digits? digits).getD 0
      if low ≤ n ∧ n ≤ high then .ok (n, s.drop (digits.length - 1)) else .error .outOfRange

/-- Reads the colon between the parts of a time. -/
def readColon (s : List Char) : Except TimestampError (List Char) :=
  match s with
  | [] => .error .tooShort
  | ':' :: s => .ok s
  | _ :: _ => .error .invalid

/-- Reads a timestamp; a part out of range shows before anything that follows it, and a day that the
month does not have shows last. -/
def Timestamp.parse (s : List Char) : Except TimestampError Timestamp := do
  let (month, s) ← readMonth (trimStart s)
  let (day, s) ← readNumber 1 31 s
  let (hour, s) ← readNumber 0 23 s
  let s ← readColon s
  let (minute, s) ← readNumber 0 59 s
  let s ← readColon s
  let (second, s) ← readNumber 0 60 s
  if !s.isEmpty then throw .tooLong
  if daysIn month < day then throw .outOfRange
  pure { month, day, hour, minute, second }

end NodeWatch.Cron
