import NodeWatch.Proofs.Cron.Detector

/-!
# What the detector makes of a whole log

The detector after some lines is determined by the entries that they record, in order
(`after_eq_foldl`). What comes of a line depends on the line and on what is remembered of its own
command. So lines that record no entry can be left out of a log, and lines of other commands too,
and the lines of a command are judged as before (`trace_filter`). The main statement is
`runAll_trace`.
-/

namespace NodeWatch.Cron

open Monitor Text

/-- The detector after some lines. -/
def after (lines : List Sighting) : Detector :=
  (cronWorker.runAll .new lines).1

/-- What came of each line. -/
def outcomes (lines : List Sighting) : List Outcome :=
  (cronWorker.runAll .new lines).2.1

/-- The notifications that were tried: those that the sink took, and one that it refused. -/
def attempts (o : Outcome) : Nat :=
  o.conditions.length + if o.error = some .sinkClosed then 1 else 0

/-- Whether a line records an entry, and an earlier line one of the same command, the last of them
less than five minutes before it. As everywhere, a leap second counts as the second before it. -/
def IsTooSoon (earlier : List Sighting) (s : Sighting) : Prop :=
  ∃ e last, recorded? s.line = some e ∧ lastOf? (entries earlier) e.command = some last ∧
    e.timestamp.seconds < last.timestamp.seconds + 60 * leastMinutes

/-- What comes of a line that is not notified: the error in it, if there is one. -/
def passedOver (s : Sighting) : Outcome :=
  match Entry.parse s.line.toList with
  | .error e => .fail (.cron e)
  | .ok _ => .quiet

lemma after_concat (earlier : List Sighting) (s : Sighting) :
    after (earlier ++ [s]) = (observeCron (after earlier) s).1 := by
  rw [after, Worker.runAll_append]
  rfl

lemma outcomes_concat (earlier : List Sighting) (s : Sighting) :
    outcomes (earlier ++ [s]) = outcomes earlier ++ [(observeCron (after earlier) s).2] := by
  rw [outcomes, Worker.runAll_append]
  rfl

lemma length_outcomes (lines : List Sighting) : (outcomes lines).length = lines.length :=
  cronWorker.length_values (fun _ _ => rfl) _ lines

/-- Whether the sink is open makes no difference to what is remembered. -/
lemma after_eq_foldl (lines : List Sighting) :
    after lines = (entries lines).foldl Detector.remember .new := by
  induction lines using List.reverseRecOn with
  | nil => rfl
  | append_singleton lines s ih =>
    rw [after_concat, entries_append, entries_singleton, List.foldl_append, ← ih]
    rcases he : recorded? s.line with _ | e
    · rw [observeCron_of_recorded?_eq_none _ he]
      rfl
    · rw [observeCron_of_recorded? _ he]
      rfl

/-- A line without the marker is not about a command. -/
lemma parse_of_not_contains {line : List Char} (h : contains " CMD ".toList line = false) :
    Entry.parse line = .ok none := by
  have hnone : after? " CMD ".toList line = none := by
    rwa [contains, Option.isSome_eq_false_iff, Option.isNone_iff_eq_none] at h
  rw [Entry.parse, hnone]

lemma recorded?_of_parse_eq_none {s : Sighting} (h : Entry.parse s.line.toList = .ok none) :
    recorded? s.line = none := by
  rw [recorded?, h]
  rfl

lemma passedOver_of_recorded? {s : Sighting} {e : Entry} (h : recorded? s.line = some e) :
    passedOver s = .quiet := by
  rw [recorded?] at h
  rw [passedOver]
  rcases hparse : Entry.parse s.line.toList with cause | found
  · rw [hparse] at h
    cases h
  · rfl

lemma observeCron_snd_of_recorded?_eq_none (d : Detector) {s : Sighting}
    (h : recorded? s.line = none) : (observeCron d s).2 = passedOver s := by
  rw [recorded?] at h
  rw [observeCron, Detector.observe, passedOver]
  rcases hparse : Entry.parse s.line.toList with cause | found
  · rfl
  · rw [hparse] at h
    obtain rfl : found = none := h
    rfl

lemma isTooFast_iff (earlier : List Sighting) (e : Entry) :
    (after earlier).isTooFast e = true ↔ ∃ last, lastOf? (entries earlier) e.command = some last ∧
      e.timestamp.seconds < last.timestamp.seconds + 60 * leastMinutes := by
  rw [Detector.isTooFast, after, last?_runAll]
  rcases lastOf? (entries earlier) e.command with _ | last <;> simp [Timestamp.isWithin]

/-- What comes of a line after others. -/
lemma observeCron_after (earlier : List Sighting) (s : Sighting) :
    (IsTooSoon earlier s → (observeCron (after earlier) s).2 =
      .notify s.sinkOpen tooFastCondition) ∧
    (¬ IsTooSoon earlier s → (observeCron (after earlier) s).2 = passedOver s) := by
  rcases he : recorded? s.line with _ | e
  · refine ⟨?_, fun _ => observeCron_snd_of_recorded?_eq_none _ he⟩
    rintro ⟨e, last, he', -⟩
    rw [he] at he'
    cases he'
  · have hsoon : IsTooSoon earlier s ↔ (after earlier).isTooFast e = true := by
      rw [isTooFast_iff, IsTooSoon, he]
      simp
    rw [hsoon, observeCron_of_recorded? _ he, passedOver_of_recorded? he]
    exact ⟨fun hfast => if_pos hfast, fun hslow => if_neg hslow⟩

lemma attempts_notify (sinkOpen : Bool) (c : Condition) :
    attempts (.notify sinkOpen c) = 1 := by
  cases sinkOpen <;> rfl

lemma attempts_passedOver (s : Sighting) : attempts (passedOver s) = 0 := by
  rw [passedOver]
  split <;> rfl

/-- Whether a line records an entry of a command. -/
def records (command : String) (s : Sighting) : Bool :=
  (recorded? s.line).any (·.command == command)

/-- The lines of a command, each with what came of it. -/
def trace (command : String) (lines : List Sighting) : List (Sighting × Outcome) :=
  (lines.zip (outcomes lines)).filter fun x => records command x.1

section

variable {command : String} {keep : Sighting → Bool}

lemma records_iff {s : Sighting} :
    records command s = true ↔ ∃ e, recorded? s.line = some e ∧ e.command = command := by
  simp [records, Option.any_eq_true]

lemma trace_concat (earlier : List Sighting) (s : Sighting) :
    trace command (earlier ++ [s]) = trace command earlier ++
      if records command s then [(s, (observeCron (after earlier) s).2)] else [] := by
  rw [trace, outcomes_concat, List.zip_append (length_outcomes earlier).symm, List.filter_append,
    ← trace]
  refine congrArg _ ?_
  split_ifs with h
  · exact List.filter_cons_of_pos h
  · exact List.filter_cons_of_neg h

lemma lastOf?_entries_filter (hkeep : ∀ s, records command s = true → keep s = true)
    (lines : List Sighting) :
    lastOf? (entries (lines.filter keep)) command = lastOf? (entries lines) command := by
  induction lines using List.reverseRecOn with
  | nil => rfl
  | append_singleton lines s ih =>
    rw [List.filter_append, entries_append lines, entries_singleton]
    by_cases hkept : keep s = true
    · rw [List.filter_cons_of_pos hkept, List.filter_nil, entries_append, entries_singleton]
      rcases recorded? s.line with _ | e
      · simpa using ih
      · rw [Option.toList_some, lastOf?_concat, lastOf?_concat, ih]
    · rw [List.filter_cons_of_neg hkept, List.filter_nil, List.append_nil, ih]
      rcases he : recorded? s.line with _ | e
      · rw [Option.toList_none, List.append_nil]
      · have hother : e.command ≠ command := fun hcommand =>
          hkept (hkeep s (records_iff.mpr ⟨e, he, hcommand⟩))
        rw [Option.toList_some, lastOf?_concat, if_neg hother]

/-- What comes of a line depends on what is remembered of its own command only. -/
lemma observeCron_congr {d other : Detector} {s : Sighting} (hrecords : records command s = true)
    (hlast : d.last? command = other.last? command) :
    (observeCron d s).2 = (observeCron other s).2 := by
  obtain ⟨e, he, rfl⟩ := records_iff.mp hrecords
  rw [observeCron_of_recorded? _ he, observeCron_of_recorded? _ he, Detector.isTooFast,
    Detector.isTooFast, hlast]

/-- Only the lines of a command matter to what comes of them. -/
lemma trace_filter (hkeep : ∀ s, records command s = true → keep s = true)
    (lines : List Sighting) : trace command (lines.filter keep) = trace command lines := by
  induction lines using List.reverseRecOn with
  | nil => rfl
  | append_singleton lines s ih =>
    rw [List.filter_append, trace_concat, ← ih]
    by_cases hkept : keep s = true
    · rw [List.filter_cons_of_pos hkept, List.filter_nil, trace_concat]
      refine congrArg _ (if_ctx_congr Iff.rfl (fun hrecords => ?_) fun _ => rfl)
      have hlast : (after (lines.filter keep)).last? command = (after lines).last? command := by
        rw [after, after, last?_runAll, last?_runAll, lastOf?_entries_filter hkeep]
      rw [observeCron_congr hrecords hlast]
    · have hother : ¬ records command s = true := fun hrecords => hkept (hkeep s hrecords)
      rw [List.filter_cons_of_neg hkept, List.filter_nil, List.append_nil, if_neg hother,
        List.append_nil]

end

/-- After some lines the detector remembers, for each command, the timestamp of the last entry of
that command, and nothing else. A line is notified, once, if and only if it comes too soon after the
last entry of its command; the condition is a warning of a rapid job. A line with an entry is
remembered, also if the sink is closed; any other line changes nothing. What comes of the lines of a
command is the same without the lines that record no entry, without the lines of other commands, and
without any lines but its own. -/
theorem runAll_trace (lines : List Sighting) :
    (∀ command, (after lines).last? command =
      (lastOf? (entries lines) command).map Entry.timestamp) ∧
    after lines = (entries lines).foldl Detector.remember .new ∧
    (outcomes lines).length = lines.length ∧
    (∀ earlier s later, lines = earlier ++ s :: later →
      (∃ o, (outcomes lines)[earlier.length]? = some o ∧
        (attempts o = 1 ↔ IsTooSoon earlier s) ∧ attempts o ≤ 1 ∧
        (IsTooSoon earlier s → o = .notify s.sinkOpen tooFastCondition) ∧
        (¬ IsTooSoon earlier s → o = passedOver s)) ∧
      (∀ e, Entry.parse s.line.toList = .ok (some e) →
        after (earlier ++ [s]) = (after earlier).remember e) ∧
      (contains " CMD ".toList s.line.toList = false → after (earlier ++ [s]) = after earlier) ∧
      (∀ e, Entry.parse s.line.toList = .error e → after (earlier ++ [s]) = after earlier)) ∧
    (tooFastCondition = {
      reason := "RapidCron"
      message :=
        "A cron job is running faster than every 5 minutes, which can impact node performance"
      severity := .warning
      minOccurrences := 1 }) ∧
    ∀ command,
      trace command (lines.filter fun s => (recorded? s.line).isSome) = trace command lines ∧
      trace command (lines.filter fun s => (recorded? s.line).all (·.command == command)) =
        trace command lines ∧
      trace command (lines.filter (records command)) = trace command lines := by
  refine ⟨last?_runAll lines, after_eq_foldl lines, length_outcomes lines, ?_,
    tooFastCondition_eq, fun command => ⟨?_, ?_, ?_⟩⟩
  · rintro earlier s later rfl
    have hunread : recorded? s.line = none → after (earlier ++ [s]) = after earlier := fun h =>
      (after_concat earlier s).trans (observeCron_of_recorded?_eq_none _ h)
    refine ⟨⟨(observeCron (after earlier) s).2, ?_, ?_⟩, fun e hparse => ?_, fun hmarker => ?_,
      fun e hparse => ?_⟩
    · exact Worker.getElem?_values _ (fun _ _ => rfl) _ earlier later s
    · obtain ⟨hsoon, hpassed⟩ := observeCron_after earlier s
      by_cases h : IsTooSoon earlier s
      · have hone : attempts (observeCron (after earlier) s).2 = 1 := by
          rw [hsoon h, attempts_notify]
        exact ⟨⟨fun _ => h, fun _ => hone⟩, hone.le, hsoon, hpassed⟩
      · have hzero : attempts (observeCron (after earlier) s).2 = 0 := by
          rw [hpassed h, attempts_passedOver]
        exact ⟨⟨fun hone => by omega, fun hs => absurd hs h⟩, by omega, hsoon, hpassed⟩
    · have he : recorded? s.line = some e := by
        rw [recorded?, hparse]
        rfl
      rw [after_concat, observeCron_of_recorded? _ he]
    · exact hunread (recorded?_of_parse_eq_none (parse_of_not_contains hmarker))
    · exact hunread (by rw [recorded?, hparse]; rfl)
  · refine trace_filter (fun s hrecords => ?_) lines
    obtain ⟨e, he, -⟩ := records_iff.mp hrecords
    rw [he]
    rfl
  · refine trace_filter (fun s hrecords => ?_) lines
    obtain ⟨e, he, rfl⟩ := records_iff.mp hrecords
    rw [he]
    exact beq_self_eq_true e.command
  · exact trace_filter (fun _ => id) lines

end NodeWatch.Cron
