import NodeWatch.Monitor.Kernel
import NodeWatch.Proofs.Cron.Calendar
import NodeWatch.Proofs.Cron.Entry
import NodeWatch.Proofs.Worker

/-!
# Which executions are reported

After some lines, the detector remembers for each command the timestamp of the last entry of that
command (`last?_runAll`). So whether an execution is reported depends on the last one of its command
alone, and on what the timestamps of the two say about the time between them. The main statement is
`conditions_of_isOrdered`; `not_areReportedInRealTime_commonYear` shows why it cannot speak of real
time alone.
-/

namespace NodeWatch.Cron

open Monitor Text

/-- The entry that a line records, if it can be read. -/
def recorded? (line : String) : Option Entry :=
  (Entry.parse line.toList).toOption.join

/-- The entries that lines record, in order. -/
def entries (sightings : List Sighting) : List Entry :=
  sightings.filterMap fun s => recorded? s.line

lemma entries_append (earlier later : List Sighting) :
    entries (earlier ++ later) = entries earlier ++ entries later :=
  List.filterMap_append

lemma entries_singleton (s : Sighting) : entries [s] = (recorded? s.line).toList := by
  rw [entries]
  rcases he : recorded? s.line with _ | e <;> simp [he]

/-- The last entry of a command. -/
def lastOf? (entries : List Entry) (command : String) : Option Entry :=
  (entries.filter (·.command == command)).getLast?

lemma lastOf?_concat (entries : List Entry) (e : Entry) (command : String) :
    lastOf? (entries ++ [e]) command =
      if e.command = command then some e else lastOf? entries command := by
  rw [lastOf?, List.filter_append]
  split_ifs with h
  · rw [List.filter_cons_of_pos (by simpa using h), List.filter_nil, List.getLast?_concat]
  · rw [List.filter_cons_of_neg (by simpa using h), List.filter_nil, List.append_nil, lastOf?]

/-- A detector that has seen nothing. -/
def Detector.new : Detector :=
  ⟨⟨[], List.nodup_nil⟩⟩

lemma tooFastCondition_eq : tooFastCondition = {
    reason := "RapidCron"
    message :=
      "A cron job is running faster than every 5 minutes, which can impact node performance"
    severity := .warning
    minOccurrences := 1 } := by
  decide +kernel

variable (d : Detector)

/-- What a line changes, and what comes of it. -/
lemma observeCron_of_recorded? {s : Sighting} {e : Entry} (h : recorded? s.line = some e) :
    observeCron d s = (d.remember e,
      if d.isTooFast e then .notify s.sinkOpen tooFastCondition else .quiet) := by
  rw [recorded?] at h
  rcases hparse : Entry.parse s.line.toList with cause | found
  · rw [hparse] at h
    cases h
  · rw [hparse] at h
    obtain rfl : found = some e := h
    rw [observeCron, Detector.observe, hparse]
    rfl

/-- A line without an entry changes nothing. -/
lemma observeCron_of_recorded?_eq_none {s : Sighting} (h : recorded? s.line = none) :
    (observeCron d s).1 = d := by
  rw [recorded?] at h
  rw [observeCron, Detector.observe]
  rcases hparse : Entry.parse s.line.toList with cause | found
  · rfl
  · rw [hparse] at h
    obtain rfl : found = none := h
    rfl

lemma last?_runAll (sightings : List Sighting) (command : String) :
    (cronWorker.runAll .new sightings).1.last? command =
      (lastOf? (entries sightings) command).map Entry.timestamp := by
  induction sightings using List.reverseRecOn with
  | nil => rfl
  | append_singleton sightings s ih =>
    rw [Worker.runAll_append, entries_append, entries_singleton]
    show (observeCron (cronWorker.runAll .new sightings).1 s).1.last? command = _
    rcases he : recorded? s.line with _ | e
    · rw [observeCron_of_recorded?_eq_none _ he, ih, Option.toList_none, List.append_nil]
    · rw [observeCron_of_recorded? _ he, Option.toList_some, lastOf?_concat]
      by_cases hcommand : e.command = command
      · rw [if_pos hcommand, ← hcommand, Detector.last?_remember_self]
        rfl
      · rw [if_neg hcommand, Detector.last?_remember_of_ne _ _ (Ne.symm hcommand), ih]

/-- What comes of a line after others. -/
lemma outcome_after (earlier later : List Sighting) {s : Sighting} {e : Entry}
    (h : recorded? s.line = some e) :
    (cronWorker.runAll .new (earlier ++ s :: later)).2.1[earlier.length]? =
      some (if ((lastOf? (entries earlier) e.command).map fun last =>
          e.timestamp.isWithin leastMinutes last.timestamp).getD false
        then .notify s.sinkOpen tooFastCondition else .quiet) := by
  rw [Worker.getElem?_values _ fun _ _ => rfl]
  show some (observeCron (cronWorker.runAll .new earlier).1 s).2 = _
  rw [observeCron_of_recorded? _ h, Detector.isTooFast, last?_runAll, Option.map_map]
  rfl

/-! ### Executions -/

lemma Moment.isValid_stamp (m : Moment) : m.stamp.IsValid where
  month := m.isMonth
  day := ⟨m.isDay.1, m.isDay.2.trans (monthLength_le m.year m.month)⟩
  hour := Nat.le_of_lt_succ m.isTime.1
  minute := Nat.le_of_lt_succ m.isTime.2.1
  second := m.isTime.2.2.le

/-- A command that was run at a moment, and what else the log says about it. -/
structure Execution where
  moment : Moment
  header : Header
  command : List Char

namespace Execution

def line (x : Execution) : String :=
  String.ofList (x.header.line x.moment.stamp x.command)

/-- The entry that the log has for an execution; its command is in parentheses. -/
def entry (x : Execution) : Entry :=
  ⟨x.moment.stamp, String.ofList ('(' :: (x.command ++ [')']))⟩

lemma recorded?_line (x : Execution) : recorded? x.line = some x.entry := by
  rw [recorded?, line, String.toList_ofList, Entry.parse_line x.header x.moment.isValid_stamp]
  rfl

lemma command_entry_eq_iff (x y : Execution) :
    x.entry.command = y.entry.command ↔ x.command = y.command := by
  simp [entry, String.ofList_inj]

end Execution

/-- The last of some executions of a command. -/
def previous? (earlier : List Execution) (command : List Char) : Option Execution :=
  (earlier.filter (·.command == command)).getLast?

/-- The lines of executions, with the sink open. -/
def sightings (executions : List Execution) : List Sighting :=
  executions.map fun x => ⟨true, x.line⟩

/-- What a new detector notifies at each of some executions. -/
def conditions (executions : List Execution) : List (List Condition) :=
  (cronWorker.runAll .new (sightings executions)).2.1.map Outcome.conditions

lemma entries_sightings (executions : List Execution) :
    entries (sightings executions) = executions.map Execution.entry := by
  induction executions with
  | nil => rfl
  | cons x executions ih =>
    rw [sightings, List.map_cons, ← List.singleton_append, entries_append, entries_singleton,
      x.recorded?_line, ← sightings, ih, Option.toList_some, List.singleton_append, List.map_cons]

lemma lastOf?_entry (earlier : List Execution) (x : Execution) :
    lastOf? (earlier.map Execution.entry) x.entry.command =
      (previous? earlier x.command).map Execution.entry := by
  rw [lastOf?, previous?, List.filter_map, List.getLast?_map]
  refine congrArg (fun s : List Execution => s.getLast?.map Execution.entry) ?_
  refine List.filter_congr fun y _ => ?_
  show (y.entry.command == x.entry.command) = (y.command == x.command)
  rw [Bool.eq_iff_iff, beq_iff_eq, beq_iff_eq, Execution.command_entry_eq_iff]

/-- An execution is judged by its timestamp and that of the last execution of its command. -/
lemma conditions_after (earlier later : List Execution) (x : Execution) :
    (conditions (earlier ++ x :: later))[earlier.length]? =
      some (if ((previous? earlier x.command).map fun last =>
          x.moment.stamp.isWithin leastMinutes last.moment.stamp).getD false
        then [tooFastCondition] else []) := by
  have hline : recorded? (⟨true, x.line⟩ : Sighting).line = some x.entry := x.recorded?_line
  have hlength : earlier.length = (sightings earlier).length := (List.length_map ..).symm
  have hsightings : sightings (earlier ++ x :: later) =
      sightings earlier ++ ⟨true, x.line⟩ :: sightings later := by
    rw [sightings, List.map_append, List.map_cons, ← sightings, ← sightings]
  rw [conditions, List.getElem?_map, hsightings, hlength, outcome_after _ _ hline,
    entries_sightings, lastOf?_entry, Option.map_some, Option.map_map]
  refine congrArg some ?_
  show (if ((previous? earlier x.command).map fun last =>
      x.moment.stamp.isWithin leastMinutes last.moment.stamp).getD false = true
    then Outcome.notify true tooFastCondition else .quiet).conditions = _
  split_ifs <;> rfl

/-- Whether executions come in the order of their moments. -/
def IsOrdered (executions : List Execution) : Prop :=
  executions.Pairwise fun x y => x.moment.seconds ≤ y.moment.seconds

lemma previous?_mem {earlier : List Execution} {command : List Char} {last : Execution}
    (h : previous? earlier command = some last) : last ∈ earlier :=
  List.mem_of_mem_filter (List.mem_of_getLast? h)

/-- A command that was not run before is not reported, and any other execution is reported if its
timestamp is less than five minutes after that of the last one of its command. Within a year, and in
a common year on one side of the end of February, this is so if it comes less than five minutes
after the last one. The log has no year, and timestamps are read in a leap year: across the end of
February of a common year nothing is reported. Across the end of a year, an execution less than five
minutes later is reported. One whose timestamp is at least five minutes later is never reported. -/
theorem conditions_of_isOrdered (earlier later : List Execution) (x : Execution)
    (hordered : IsOrdered (earlier ++ x :: later)) :
    tooFastCondition = {
      reason := "RapidCron"
      message :=
        "A cron job is running faster than every 5 minutes, which can impact node performance"
      severity := .warning
      minOccurrences := 1 } ∧
    ∃ notified, (conditions (earlier ++ x :: later))[earlier.length]? = some notified ∧
      match previous? earlier x.command with
      | none => notified = []
      | some last =>
        (notified =
          if x.moment.stamp.seconds < last.moment.stamp.seconds + 60 * leastMinutes
          then [tooFastCondition] else []) ∧
        (last.moment.InStep x.moment → notified =
          if x.moment.seconds < last.moment.seconds + 60 * leastMinutes
          then [tooFastCondition] else []) ∧
        (last.moment.IsAcrossFebruary x.moment → notified = []) ∧
        (last.moment.year < x.moment.year →
          x.moment.seconds < last.moment.seconds + 60 * leastMinutes →
            notified = [tooFastCondition]) ∧
        (last.moment.stamp.seconds + 60 * leastMinutes ≤ x.moment.stamp.seconds →
          notified = []) := by
  refine ⟨tooFastCondition_eq, _, conditions_after earlier later x, ?_⟩
  rcases hlast : previous? earlier x.command with _ | last
  · rfl
  · have hle : last.moment.seconds ≤ x.moment.seconds :=
      (List.pairwise_append.mp hordered).2.2 last (previous?_mem hlast) x (List.mem_cons_self ..)
    simp only [Option.map_some, Option.getD_some]
    refine ⟨?_, fun hstep => ?_, fun hacross => ?_, fun hyear hsoon => ?_, fun hlate => ?_⟩
    · simp only [Timestamp.isWithin, decide_eq_true_iff]
    · simp only [Moment.isWithin_stamp_iff hstep]
    · have hday : leastMinutes ≤ 24 * 60 := by decide
      have hnot := Moment.isWithin_stamp_acrossFebruary hday hacross hle
      exact if_neg (Bool.eq_false_iff.mp hnot)
    · exact if_pos (Moment.isWithin_stamp_acrossYears hyear hsoon)
    · refine if_neg fun hwithin => ?_
      rw [Timestamp.isWithin, decide_eq_true_iff] at hwithin
      omega

/-! ### Ends of months and years -/

/-- A job of root at a moment. -/
def job (command : String) (moment : Moment) : Execution where
  moment
  header := {
    host := "host".toList
    tag := "CROND[1]".toList
    user := "root".toList
    isHost := ⟨⟨by decide, by decide⟩, by decide⟩
    isTag := by decide
    isUser := by decide }
  command := command.toList

/-- Three minutes apart, before and after the end of a January. -/
def endOfJanuary : Execution × Execution :=
  (job "/usr/bin/job"
      { year := 2023, month := 1, day := 31, hour := 23, minute := 58, second := 0 },
    job "/usr/bin/job"
      { year := 2023, month := 2, day := 1, hour := 0, minute := 1, second := 0 })

theorem conditions_endOfJanuary :
    IsOrdered [endOfJanuary.1, endOfJanuary.2] ∧
      (conditions [endOfJanuary.1, endOfJanuary.2])[1]? = some [tooFastCondition] := by
  have hordered : IsOrdered ([endOfJanuary.1] ++ endOfJanuary.2 :: []) := by
    unfold IsOrdered
    decide +kernel
  have hprevious : previous? [endOfJanuary.1] endOfJanuary.2.command = some endOfJanuary.1 := by
    rfl
  have hstep : endOfJanuary.1.moment.InStep endOfJanuary.2.moment := ⟨rfl, .inr (by decide)⟩
  have hsoon : endOfJanuary.2.moment.seconds <
      endOfJanuary.1.moment.seconds + 60 * leastMinutes := by
    decide +kernel
  obtain ⟨-, notified, hnotified, hlaw⟩ :=
    conditions_of_isOrdered [endOfJanuary.1] [] endOfJanuary.2 hordered
  rw [hprevious] at hlaw
  have hreported : notified = [tooFastCondition] := by
    rw [hlaw.2.1 hstep, if_pos hsoon]
  exact ⟨hordered, hnotified.trans (congrArg some hreported)⟩

/-- Whether every execution is reported that comes less than five minutes after the last one of its
command, and no other. -/
def AreReportedInRealTime (executions : List Execution) : Prop :=
  ∀ earlier later x, executions = earlier ++ x :: later →
    ((conditions executions)[earlier.length]? = some [tooFastCondition] ↔
      ∃ last, previous? earlier x.command = some last ∧
        x.moment.seconds < last.moment.seconds + 60 * leastMinutes)

/-- Before and after the end of February of a common year, three minutes apart. -/
def endOfFebruary : Execution × Execution :=
  (job "/usr/bin/often"
      { year := 2023, month := 2, day := 28, hour := 23, minute := 58, second := 0 },
    job "/usr/bin/often"
      { year := 2023, month := 3, day := 1, hour := 0, minute := 1, second := 0 })

/-- Before and after the end of that year, a day apart. -/
def endOfYear : Execution × Execution :=
  (job "/usr/bin/daily"
      { year := 2023, month := 12, day := 31, hour := 10, minute := 0, second := 0 },
    job "/usr/bin/daily"
      { year := 2024, month := 1, day := 1, hour := 10, minute := 0, second := 0 })

def commonYear : List Execution :=
  [endOfFebruary.1, endOfFebruary.2, endOfYear.1, endOfYear.2]

/-- Of the two jobs, the one that is run once a day is reported. -/
theorem not_areReportedInRealTime_commonYear :
    IsOrdered commonYear ∧ conditions commonYear = [[], [], [], [tooFastCondition]] ∧
      ¬ AreReportedInRealTime commonYear := by
  have hordered : IsOrdered commonYear := by
    unfold IsOrdered
    decide +kernel
  have hconditions : conditions commonYear = [[], [], [], [tooFastCondition]] := by
    decide +kernel
  refine ⟨hordered, hconditions, fun h => ?_⟩
  have hsoon : endOfFebruary.2.moment.seconds <
      endOfFebruary.1.moment.seconds + 60 * leastMinutes := by
    decide +kernel
  have hreported := (h [endOfFebruary.1] [endOfYear.1, endOfYear.2] endOfFebruary.2 rfl).mpr
    ⟨endOfFebruary.1, rfl, hsoon⟩
  rw [hconditions] at hreported
  exact absurd hreported (by decide)

end NodeWatch.Cron
