import Mathlib.Order.Monotone.Basic
import Mathlib.Tactic.IntervalCases
import NodeWatch.Cron.Timestamp

/-!
# Moments and their timestamps

A moment has a year, its timestamp has none and is read in a leap year. How far two moments are
apart and how far their timestamps are apart is compared here: within a year they differ only across
the end of February of a common year (`Moment.isWithin_stamp_iff`,
`Moment.isWithin_stamp_acrossFebruary`), and moments that are close together across the end of a year
have timestamps of which the later comes first (`Moment.isWithin_stamp_acrossYears`).
-/

namespace NodeWatch.Cron

/-- Leap years of the Gregorian calendar. -/
def isLeap (year : Nat) : Bool :=
  year % 4 == 0 && (year % 100 != 0 || year % 400 == 0)

def monthLength (year month : Nat) : Nat :=
  if month = 2 ∧ isLeap year = false then 28 else daysIn month

/-- The days of a year before the first of a month. -/
def daysBeforeMonth (year month : Nat) : Nat :=
  ((List.range' 1 (month - 1)).map (monthLength year)).sum

def yearLength (year : Nat) : Nat :=
  if isLeap year then 366 else 365

/-- The days before the first of January. -/
def daysBeforeYear : Nat → Nat
  | 0 => 0
  | year + 1 => daysBeforeYear year + yearLength year

/-- A second of the calendar. Every day has the same number of them. -/
structure Moment where
  year : Nat
  month : Nat
  day : Nat
  hour : Nat
  minute : Nat
  second : Nat
  isMonth : 1 ≤ month ∧ month ≤ 12 := by decide
  isDay : 1 ≤ day ∧ day ≤ monthLength year month := by decide
  isTime : hour < 24 ∧ minute < 60 ∧ second < 60 := by decide

/-- The day that a leap year has and a common year has not, from March on. -/
def leapDay (year month : Nat) : Nat :=
  if isLeap year = false ∧ 3 ≤ month then 1 else 0

lemma daysBeforeMonth_add_leapDay (year : Nat) {month : Nat} (h : 1 ≤ month ∧ month ≤ 12) :
    daysBeforeMonth year month + leapDay year month = daysBefore month := by
  obtain ⟨hlow, hhigh⟩ := h
  rcases hleap : isLeap year with _ | _ <;> interval_cases month <;>
    simp [daysBeforeMonth, leapDay, monthLength, hleap, daysBefore, daysIn, months, List.range']

lemma monthLength_le (year month : Nat) : monthLength year month ≤ daysIn month := by
  rw [monthLength]
  split_ifs with h
  · rw [h.1]
    decide
  · exact Nat.le_refl _

/-- A year is as long as its months. -/
lemma yearLength_eq (year : Nat) : yearLength year = daysBeforeMonth year 13 := by
  rcases hleap : isLeap year with _ | _ <;>
    simp [yearLength, daysBeforeMonth, monthLength, hleap, daysIn, months, List.range']

/-- A month ends with its year or before. -/
lemma daysBeforeMonth_add_monthLength_le (year : Nat) {month : Nat} (h : 1 ≤ month ∧ month ≤ 12) :
    daysBeforeMonth year month + monthLength year month ≤ yearLength year := by
  obtain ⟨hlow, hhigh⟩ := h
  rw [yearLength_eq]
  rcases hleap : isLeap year with _ | _ <;> interval_cases month <;>
    simp [daysBeforeMonth, monthLength, hleap, daysIn, months, List.range']

lemma le_yearLength (year : Nat) : 365 ≤ yearLength year := by
  rw [yearLength]
  split_ifs <;> decide

lemma daysBeforeYear_mono : Monotone daysBeforeYear :=
  monotone_nat_of_le_succ fun _ => Nat.le_add_right _ _

namespace Moment

/-- Seconds of the calendar before a moment. -/
def seconds (m : Moment) : Nat :=
  (((daysBeforeYear m.year + daysBeforeMonth m.year m.month + (m.day - 1)) * 24 + m.hour) * 60 +
    m.minute) * 60 + m.second

/-- What the log says about a moment. -/
def stamp (m : Moment) : Timestamp :=
  ⟨m.month, m.day, m.hour, m.minute, m.second⟩

/-- Whether two moments lie in one year, and in a common year on one side of the end of February. -/
def InStep (last m : Moment) : Prop :=
  last.year = m.year ∧ (isLeap m.year = true ∨ (last.month ≤ 2 ↔ m.month ≤ 2))

/-- Whether the end of February of a common year lies between two moments of that year. -/
def IsAcrossFebruary (last m : Moment) : Prop :=
  last.year = m.year ∧ isLeap m.year = false ∧ last.month ≤ 2 ∧ 2 < m.month

lemma seconds_add_leapDay (m : Moment) :
    m.seconds + 86400 * leapDay m.year m.month =
      86400 * daysBeforeYear m.year + m.stamp.seconds := by
  have hmonth := daysBeforeMonth_add_leapDay m.year m.isMonth
  have hsecond := m.isTime.2.2
  rw [seconds, Timestamp.seconds, stamp]
  simp only
  omega

/-- Seconds of the year. -/
lemma seconds_lt (m : Moment) : m.seconds < 86400 * daysBeforeYear (m.year + 1) := by
  have hyear := daysBeforeMonth_add_monthLength_le m.year m.isMonth
  obtain ⟨hday, hday'⟩ := m.isDay
  obtain ⟨hhour, hminute, hsecond⟩ := m.isTime
  rw [seconds, daysBeforeYear]
  omega

lemma le_seconds (m : Moment) : 86400 * daysBeforeYear m.year ≤ m.seconds := by
  rw [seconds]
  omega

variable {last m : Moment} {minutes : Nat}

/-- Where no day is missing between them, timestamps are as far apart as moments. -/
lemma isWithin_stamp_iff (h : InStep last m) :
    m.stamp.isWithin minutes last.stamp = true ↔ m.seconds < last.seconds + 60 * minutes := by
  obtain ⟨hyear, hside⟩ := h
  have hlast := last.seconds_add_leapDay
  have hm := m.seconds_add_leapDay
  have hleap : leapDay last.year last.month = leapDay m.year m.month := by
    rw [hyear, leapDay, leapDay]
    rcases hside with hleap | hside
    · simp [hleap]
    · have hiff : 3 ≤ last.month ↔ 3 ≤ m.month := by omega
      simp only [hiff]
  rw [Timestamp.isWithin, decide_eq_true_iff]
  rw [hleap, hyear] at hlast
  omega

/-- Across the end of February of a common year, the timestamps are a day further apart. -/
lemma isWithin_stamp_acrossFebruary (hminutes : minutes ≤ 24 * 60) (h : IsAcrossFebruary last m)
    (hordered : last.seconds ≤ m.seconds) : m.stamp.isWithin minutes last.stamp = false := by
  obtain ⟨hyear, hcommon, hlast, hm⟩ := h
  have hfirst := last.seconds_add_leapDay
  have hsecond := m.seconds_add_leapDay
  have hmissing : leapDay last.year last.month = 0 := if_neg (by omega)
  have hpresent : leapDay m.year m.month = 1 := if_pos ⟨hcommon, hm⟩
  rw [hmissing, hyear] at hfirst
  rw [hpresent] at hsecond
  rw [Timestamp.isWithin, decide_eq_false_iff_not]
  omega

/-- Across the end of a year, the timestamp of the later moment is the earlier one. -/
lemma isWithin_stamp_acrossYears (hyear : last.year < m.year)
    (h : m.seconds < last.seconds + 60 * minutes) : m.stamp.isWithin minutes last.stamp = true := by
  have hfirst := last.seconds_add_leapDay
  have hsecond := m.seconds_add_leapDay
  have hmono := daysBeforeYear_mono hyear
  have hnext := last.seconds_lt
  have hstart := m.le_seconds
  have hlength := le_yearLength last.year
  have hone : leapDay m.year m.month ≤ 1 := by
    rw [leapDay]
    split_ifs <;> omega
  rw [Nat.succ_eq_add_one, daysBeforeYear] at hmono
  rw [Timestamp.isWithin, decide_eq_true_iff]
  omega

end Moment

end NodeWatch.Cron
