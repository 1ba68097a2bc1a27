import NodeWatch.KernelLog.Record
import NodeWatch.Proofs.KernelLog.Classify
import NodeWatch.Proofs.Text.Decimal
import NodeWatch.Proofs.Text.Words

/-!
# Records that reach the classifier

A record of the kernel is shown with the time since boot in brackets, a blank, and the message. The
brackets are part of the report of a bug, the blank is part of the report of a segmentation fault,
and nothing in the time can be mistaken for the start of a report. So what a message says about a
process is what is reported, whatever the time and however wide it is. The main statement is
`classify?_recordLine?`.
-/

namespace NodeWatch.KernelLog

open Computability Text

/-- A record as the kernel writes it: fields between commas, of which the third gives the time since
boot in microseconds, a semicolon, and the message. What comes after the third field is not read. -/
structure RawRecord where
  priority : List Char
  sequence : List Char
  time : List Char
  more : Option (List Char)
  message : List Char
  micros : Nat
  starts : priority.head? ≠ some ' '
  priority_comma : ',' ∉ priority
  sequence_comma : ',' ∉ sequence
  time_eq : count? time = some micros
  priority_semicolon : ';' ∉ priority
  sequence_semicolon : ';' ∉ sequence
  more_semicolon : ∀ fields ∈ more, ';' ∉ fields

namespace RawRecord

/-- What comes after the third field of the header. -/
def flags (r : RawRecord) : List Char :=
  (r.more.map (',' :: ·)).getD []

def header (r : RawRecord) : List Char :=
  r.priority ++ ',' :: (r.sequence ++ ',' :: (r.time ++ r.flags))

def text (r : RawRecord) : List Char :=
  r.header ++ ';' :: r.message

end RawRecord

namespace RawRecord

lemma not_mem_time (r : RawRecord) {c : Char} (hsign : c ≠ '+') (hdigit : c.isDigit = false) :
    c ∉ r.time := by
  intro hmem
  rcases mem_of_count? r.time_eq hmem with h | h
  · exact hsign h
  · simp [hdigit] at h

lemma comma_not_mem_time (r : RawRecord) : ',' ∉ r.time :=
  r.not_mem_time (by decide) rfl

lemma semicolon_not_mem_header (r : RawRecord) : ';' ∉ r.header := by
  have htime : ';' ∉ r.time := r.not_mem_time (by decide) rfl
  have hflags : ';' ∉ r.flags := by
    rcases hmore : r.more with _ | fields
    · simp [flags, hmore]
    · simpa [flags, hmore] using r.more_semicolon fields hmore
  simp [header, r.priority_semicolon, r.sequence_semicolon, htime, hflags]

lemma time_of_header (r : RawRecord) : (r.header.splitOn ',')[2]? = some r.time := by
  rw [header, splitOn_of_not_mem r.priority_comma, splitOn_of_not_mem r.sequence_comma]
  rcases hmore : r.more with _ | fields
  · have hlast : r.time.splitOn ',' = [r.time] :=
      List.splitOnP_eq_singleton fun c hc => by
        simpa using fun heq : c = ',' => r.comma_not_mem_time (heq ▸ hc)
    simp [flags, hmore, hlast]
  · simp [flags, hmore, splitOn_of_not_mem r.comma_not_mem_time]

lemma parse?_text (r : RawRecord) : Record.parse? r.text = some ⟨r.micros, r.message⟩ := by
  have hhead : r.text.head? ≠ some ' ' := by
    rcases hpriority : r.priority with _ | ⟨c, priority⟩
    · simp [text, header, hpriority]
    · have hstarts := r.starts
      rw [hpriority] at hstarts
      simpa [text, header, hpriority] using hstarts
  rw [Record.parse?, text, cut?_of_not_mem r.semicolon_not_mem_header, ← text]
  simp [hhead, r.time_of_header, r.time_eq]

lemma recordLine?_text (r : RawRecord) :
    recordLine? r.text = some (Record.line ⟨r.micros, r.message⟩) := by
  rw [recordLine?, r.parse?_text, Option.map_some]

end RawRecord

namespace Record

/-- The time since boot in seconds and microseconds. -/
def stamp (r : Record) : List Char :=
  padded 5 ' ' (r.micros / 1000000) ++ '.' :: padded 6 '0' (r.micros % 1000000)

lemma line_eq (r : Record) : r.line = '[' :: (r.stamp ++ ']' :: ' ' :: trimEnd r.message) := by
  simp [line, stamp]

lemma mem_stamp {r : Record} {c : Char} (h : c ∈ r.stamp) :
    c = ' ' ∨ c = '.' ∨ c.isDigit = true := by
  rcases List.mem_append.mp h with h | h
  · exact (mem_padded h).imp_right .inr
  · rcases List.mem_cons.mp h with h | h
    · exact .inr (.inl h)
    · rcases mem_padded h with rfl | h
      · exact .inr (.inr rfl)
      · exact .inr (.inr h)

lemma not_mem_stamp (r : Record) {c : Char} (hblank : c ≠ ' ') (hdot : c ≠ '.')
    (hdigit : c.isDigit = false) : c ∉ r.stamp := by
  intro h
  rcases mem_stamp h with h | h | h
  · exact hblank h
  · exact hdot h
  · simp [hdigit] at h

end Record

/-- A message that begins like the report of a bug. -/
def IsBugReport (message : List Char) : Prop :=
  ∃ c rest, message = "BUG: ".toList ++ c :: rest ∧ isSpace c = false

/-- A message that reports a segmentation fault of a process. -/
def IsFaultReport (message process : List Char) : Prop :=
  ∃ number rest,
    message = process ++ ("[".toList ++ (number ++ ("]: segfault at".toList ++ rest))) ∧
    process ∈ manyOf inName ∧ number ∈ manyOf isDecimalDigit

/-- A message that reports a blocked process, whose name does not hold the report's own words. -/
def IsBlockedReport (message process : List Char) : Prop :=
  ∃ number rest, message = "INFO: task ".toList ++ (process ++ (":".toList ++ (number ++
      (" blocked for more than".toList ++ rest)))) ∧
    number ∈ manyOf isDecimalDigit ∧ '\n' ∉ process ∧
      ¬ " blocked for more than".toList <:+: process

/-- Every report ends in words of its own, so the white space that is cut off is not part of it. -/
lemma IsBugReport.trimEnd {message : List Char} (h : IsBugReport message) :
    IsBugReport (Text.trimEnd message) := by
  obtain ⟨c, rest, rfl, hc⟩ := h
  exact ⟨c, Text.trimEnd rest, trimEnd_append_cons hc _ rest, hc⟩

lemma IsFaultReport.trimEnd {message process : List Char} (h : IsFaultReport message process) :
    IsFaultReport (Text.trimEnd message) process := by
  obtain ⟨number, rest, rfl, hprocess, hnumber⟩ := h
  refine ⟨number, Text.trimEnd rest, ?_, hprocess, hnumber⟩
  have htrim := trimEnd_append_word "]: segfault at".toList (c := 't') rfl rfl
    (process ++ ("[".toList ++ number)) rest
  simpa only [List.append_assoc] using htrim

lemma IsBlockedReport.trimEnd {message process : List Char} (h : IsBlockedReport message process) :
    IsBlockedReport (Text.trimEnd message) process := by
  obtain ⟨number, rest, rfl, hreport⟩ := h
  refine ⟨number, Text.trimEnd rest, ?_, hreport⟩
  have htrim := trimEnd_append_word " blocked for more than".toList (c := 'n') rfl rfl
    ("INFO: task ".toList ++ (process ++ (":".toList ++ number))) rest
  simpa only [List.append_assoc] using htrim

/-! ### What the messages report -/

namespace Record

variable {r : Record} {process : List Char}

/-- The brackets of the time are those of the report. -/
lemma occurs_bug (h : IsBugReport r.message) : Occurs bug r.line := by
  obtain ⟨c, rest, hmessage, hc⟩ := h.trimEnd
  have hline : r.line = "[".toList ++ (r.stamp ++ ("] BUG: ".toList ++ c :: rest)) := by
    rw [line_eq, hmessage]
    rfl
  have hstamp : '\n' ∉ r.stamp := r.not_mem_stamp (by decide) (by decide) rfl
  simp only [bug, mul_assoc]
  rw [occurs_exactly_mul_iff, hline]
  refine ⟨[], _, rfl, starts_mul_iff.mpr ⟨r.stamp, _, rfl, mem_dot_kstar.mpr hstamp, ?_⟩⟩
  exact starts_exactly_mul_iff.mpr ⟨_, rfl, starts_kstar _ _⟩

/-- What follows a character of the time up to its closing bracket. -/
lemma brackets_of_suffix {c : Char} {u : List Char} (h : c :: u <:+ '[' :: (r.stamp ++ [']']))
    (hc : c ≠ ']') : '[' ∉ u ∧ ']' ∈ u := by
  have hopening : '[' ∉ r.stamp ++ [']'] := by
    simp [r.not_mem_stamp (c := '[') (by decide) (by decide) rfl]
  constructor
  · intro hmem
    rcases List.suffix_cons_iff.mp h with heq | hsuffix
    · exact hopening ((List.cons_eq_cons.mp heq).2 ▸ hmem)
    · exact hopening (hsuffix.subset (List.mem_cons_of_mem c hmem))
  · obtain ⟨v, hv⟩ := h
    have hlast : (v ++ c :: u).getLast? = some ']' := by
      rw [hv, ← List.cons_append, List.getLast?_concat]
    rcases u with _ | ⟨d, u⟩
    · rw [List.getLast?_concat] at hlast
      exact absurd (Option.some.inj hlast) hc
    · rw [List.getLast?_append_cons, List.getLast?_cons_cons] at hlast
      exact List.mem_of_getLast? hlast

/-- A crash is reported at the blank before the message. -/
lemma leftmost_crash (h : IsFaultReport r.message process) :
    ∃ report, Leftmost crash r.line ('[' :: (r.stamp ++ [']'])) report ∧
      CrashNames report process := by
  obtain ⟨number, rest, hmessage, hprocess, hnumber⟩ := h.trimEnd
  have hnames : FaultNames (' ' :: Text.trimEnd r.message) process :=
    ⟨' ', number, rest, by rw [hmessage], by decide, hprocess, hnumber⟩
  have hline : r.line = '[' :: (r.stamp ++ [']']) ++ ' ' :: Text.trimEnd r.message := by
    simp [line_eq]
  rw [hline]
  refine ⟨_, leftmost_of_suffixes ?_ fun c u hu hstarts => ?_, .inr hnames⟩
  · exact starts_add_iff.mpr (.inr ((isSome_faulted?_iff _).mp
      (by rw [faulted?_eq_some_iff.mpr hnames]; rfl)))
  · have hmem : c ∈ '[' :: (r.stamp ++ [']']) := hu.subset List.mem_cons_self
    rcases starts_add_iff.mp hstarts with htrap | hfault
    · -- a trap report starts with a letter, and there is none in the time
      rw [trap_eq, starts_exactly_mul_iff] at htrap
      obtain ⟨after, hsplit, -⟩ := htrap
      obtain rfl : c = 't' := (List.cons_eq_cons.mp hsplit).1
      have hstamp := r.not_mem_stamp (c := 't') (by decide) (by decide) rfl
      simp [hstamp] at hmem
    · -- between a blank of the time and the next opening bracket, there is a closing one
      obtain ⟨other, hother⟩ := Option.isSome_iff_exists.mp ((isSome_faulted?_iff _).mpr hfault)
      obtain ⟨d, number', after, hsplit, hspace, hword, -⟩ := faulted?_eq_some_iff.mp hother
      obtain ⟨rfl, hrest⟩ := List.cons_eq_cons.mp hsplit
      have hc : c ≠ ']' := by
        rintro rfl
        exact absurd hspace (by decide)
      obtain ⟨hopening, hclosing⟩ := brackets_of_suffix hu hc
      have hclosed : ']' ∉ other := fun hin => absurd ((mem_manyOf.mp hword).2 _ hin) (by decide)
      exact hclosed ((prefix_of_not_mem hrest hopening).subset hclosing)

/-- The shortest text that can be the name of a blocked process is the whole name: the report cannot
start earlier, since a colon within the name is not followed by a number and the report's words. -/
lemma blockedNames {number : List Char} (hnumber : number ∈ manyOf isDecimalDigit)
    (hline : '\n' ∉ process) (hwords : ¬ " blocked for more than".toList <:+: process)
    (rest : List Char) :
    BlockedNames ("task ".toList ++ (process ++ (":".toList ++ (number ++
      (" blocked for more than".toList ++ rest))))) process := by
  have hdigits := (mem_manyOf.mp hnumber).2
  have hfront : '\n' ∉ "task ".toList ++ (process ++ (":".toList ++ (number ++
      " blocked for more than".toList))) := by
    simp only [List.mem_append, not_or]
    exact ⟨by decide, hline, by decide, fun h => absurd (hdigits _ h) (by decide), by decide⟩
  refine ⟨_, number ++ (" blocked for more than".toList ++ rest.takeWhile (· ≠ '\n')), ?_, rfl, ?_,
    ?_⟩
  · simpa only [List.append_assoc] using takeWhile_append_of_not_mem hfront rest
  · exact starts_mul_iff.mpr ⟨number, _, rfl, hnumber, starts_exactly_iff.mpr ⟨_, rfl⟩⟩
  · intro process' after' hsplit hstarts
    by_contra hlt
    obtain ⟨number', report, rfl, hnumber', hreport⟩ := starts_mul_iff.mp hstarts
    obtain ⟨after', rfl⟩ := starts_exactly_iff.mp hreport
    -- what stands before the report's words has a colon, then a number, within the name
    obtain ⟨more, rfl⟩ : process' ++ ":".toList <+: process :=
      List.prefix_of_prefix_length_le ⟨_, (List.append_assoc ..).trans hsplit.symm⟩
        (List.prefix_append process _) (by simp; omega)
    have hcolon : ':' ∉ number' ++ " blocked for more than".toList := by
      rw [List.mem_append, not_or]
      exact ⟨fun h => absurd ((mem_manyOf.mp hnumber').2 _ h) (by decide), by decide⟩
    have hrest : number' ++ " blocked for more than".toList ++ after' = more ++ (":".toList ++
        (number ++ (" blocked for more than".toList ++ rest.takeWhile (· ≠ '\n')))) := by
      simpa only [List.append_assoc, List.append_cancel_left_eq] using hsplit.symm
    have hprefix : number' ++ " blocked for more than".toList <+: more :=
      prefix_of_not_mem hrest hcolon
    have hfound : " blocked for more than".toList <:+: more :=
      (List.suffix_append number' _).isInfix.trans hprefix.isInfix
    exact hwords (hfound.trans (List.suffix_append _ more).isInfix)

/-- A blocked process is reported behind the first word of the message. -/
lemma leftmost_blocked (h : IsBlockedReport r.message process) :
    ∃ report, Leftmost blocked r.line ('[' :: (r.stamp ++ "] INFO: ".toList)) report ∧
      BlockedNames report process := by
  obtain ⟨number, rest, hmessage, hnumber, hline, hwords⟩ := h.trimEnd
  have hnames := blockedNames hnumber hline hwords rest
  have hsplit : r.line = '[' :: (r.stamp ++ "] INFO: ".toList) ++ ("task ".toList ++ (process ++
      (":".toList ++ (number ++ (" blocked for more than".toList ++ rest))))) := by
    rw [line_eq, hmessage, List.cons_append, List.append_assoc]
    rfl
  rw [hsplit]
  refine ⟨_, leftmost_of_suffixes ?_ fun c u hu hstarts => ?_, hnames⟩
  · exact (isSome_blockedAt?_iff _).mp (by rw [blockedAt?_eq_some_iff.mpr hnames]; rfl)
  · -- a report starts with a letter that does not occur before it
    have hmem : c ∈ '[' :: (r.stamp ++ "] INFO: ".toList) := hu.subset List.mem_cons_self
    simp only [blocked, mul_assoc] at hstarts
    obtain ⟨after, hafter, -⟩ := starts_exactly_mul_iff.mp hstarts
    obtain rfl : c = 't' := (List.cons_eq_cons.mp hafter).1
    have hstamp := r.not_mem_stamp (c := 't') (by decide) (by decide) rfl
    simp [hstamp] at hmem

end Record

/-! ### What the records report -/

/-- Every record has a line, and the report in its message is found in that line, whatever the
header says: a bug is reported as such or as a soft lockup, and the process of a segmentation fault
or of a blocked task is named as the message names it, unless the line has one of the reports that
are looked for before. The name is quoted, and no other name is quoted in the same way. -/
theorem classify?_recordLine? (r : RawRecord) :
    ∃ line, recordLine? r.text = some line ∧
      (IsBugReport r.message →
        classify? line = some {
          reason := "KernelBug"
          message := "A kernel bug was detected and reported by the Linux kernel"
          severity := .warning
          minOccurrences := 1 } ∨
        ∃ length, classify? line = some {
          reason := "SoftLockup"
          message := s!"CPU stuck for {String.ofList length}"
          severity := .warning
          minOccurrences := 1 }) ∧
      (∀ process, IsFaultReport r.message process →
        ¬ Occurs lockup line → ¬ Occurs bug line →
          ∃ quoted : String, Quotes process quoted.toList ∧
            (∀ other, Quotes other quoted.toList → other = process) ∧
            classify? line = some {
              reason := "AppCrash"
              message := s!"Process {quoted} on the node has crashed"
              severity := .warning
              minOccurrences := 1 }) ∧
      ∀ process, IsBlockedReport r.message process →
        ¬ Occurs lockup line → ¬ Occurs bug line → ¬ Occurs crash line →
          ∃ quoted : String, Quotes process quoted.toList ∧
            (∀ other, Quotes other quoted.toList → other = process) ∧
            classify? line = some {
              reason := "AppBlocked"
              message :=
                s!"Process {quoted} has been blocked from scheduling for a long period of time"
              severity := .warning
              minOccurrences := 1 } := by
  refine ⟨_, r.recordLine?_text, fun h => ?_, fun process h hlockup hbug => ?_,
    fun process h hlockup hbug hcrash => ?_⟩
  · rw [classify?]
    rcases lockupLength? (Record.line ⟨r.micros, r.message⟩) with _ | length
    · rw [← bugCondition_eq]
      exact .inl (if_pos (reportsBug_iff.mpr (Record.occurs_bug h)))
    · exact .inr ⟨length, congrArg some (lockupCondition_eq length)⟩
  · obtain ⟨report, hleft, hnames⟩ := Record.leftmost_crash (r := ⟨r.micros, r.message⟩) h
    obtain ⟨quoted, hquotes, honly⟩ := exists_quotes process
    refine ⟨quoted, hquotes, honly, ?_⟩
    rw [classify?_eq_crash hlockup hbug hleft hnames, crashCondition_eq hquotes]
  · obtain ⟨report, hleft, hnames⟩ := Record.leftmost_blocked (r := ⟨r.micros, r.message⟩) h
    obtain ⟨quoted, hquotes, honly⟩ := exists_quotes process
    refine ⟨quoted, hquotes, honly, ?_⟩
    rw [classify?_eq_blocked hlockup hbug hcrash hleft hnames, blockedCondition_eq hquotes]

/-- A record of the last microsecond that can be given; its seconds need no padding. -/
def lastRecord (message : List Char) : RawRecord where
  priority := "4".toList
  sequence := "99".toList
  time := "18446744073709551615".toList
  more := some "-,caller=T896".toList
  message
  micros := 18446744073709551615
  starts := by decide
  priority_comma := by decide
  sequence_comma := by decide
  time_eq := by decide +kernel
  priority_semicolon := by decide
  sequence_semicolon := by decide
  more_semicolon := by decide

def faultMessage : List Char :=
  "traps:x[7]: segfault at 0 ".toList

def blockedMessage : List Char :=
  "INFO: task a:1 task b:2:33 blocked for more than 120 s".toList

/-- Words of other reports within a name make no difference. -/
theorem classify?_recordLine?_last :
    (∃ line, recordLine? (lastRecord faultMessage).text = some line ∧
      classify? line = some {
        reason := "AppCrash"
        message := "Process \"traps:x\" on the node has crashed"
        severity := .warning
        minOccurrences := 1 }) ∧
    ∃ line, recordLine? (lastRecord blockedMessage).text = some line ∧
      classify? line = some {
        reason := "AppBlocked"
        message :=
          "Process \"a:1 task b:2\" has been blocked from scheduling for a long period of time"
        severity := .warning
        minOccurrences := 1 } := by
  constructor
  · obtain ⟨line, hline, -, hfault, -⟩ := classify?_recordLine? (lastRecord faultMessage)
    have hreport : IsFaultReport faultMessage "traps:x".toList :=
      ⟨"7".toList, " 0 ".toList, rfl, by simp; decide, by simp; decide⟩
    have hshown : line = "[18446744073709.551615] traps:x[7]: segfault at 0".toList :=
      Option.some.inj (hline.symm.trans (by decide +kernel))
    obtain ⟨quoted, hquotes, -, hcrash⟩ := hfault _ hreport
      (lockupLength?_eq_none_iff.mp (by rw [hshown]; decide +kernel))
      (mt reportsBug_iff.mpr (by rw [hshown]; decide +kernel))
    have hquoted : quoted = "\"traps:x\"" :=
      String.toList_inj.mp ((quotes_iff.mp hquotes).trans (by decide +kernel))
    exact ⟨line, hline, hcrash.trans (by rw [hquoted]; decide +kernel)⟩
  · obtain ⟨line, hline, -, -, hblocked⟩ := classify?_recordLine? (lastRecord blockedMessage)
    have hreport : IsBlockedReport blockedMessage "a:1 task b:2".toList :=
      ⟨"33".toList, " 120 s".toList, rfl, by simp; decide, by decide, by decide⟩
    have hshown : line =
        "[18446744073709.551615] INFO: task a:1 task b:2:33 blocked for more than 120 s".toList :=
      Option.some.inj (hline.symm.trans (by decide +kernel))
    obtain ⟨quoted, hquotes, -, hnamed⟩ := hblocked _ hreport
      (lockupLength?_eq_none_iff.mp (by rw [hshown]; decide +kernel))
      (mt reportsBug_iff.mpr (by rw [hshown]; decide +kernel))
      (crashed?_eq_none_iff.mp (by rw [hshown]; decide +kernel))
    have hquoted : quoted = "\"a:1 task b:2\"" :=
      String.toList_inj.mp ((quotes_iff.mp hquotes).trans (by decide +kernel))
    exact ⟨line, hline, hnamed.trans (by rw [hquoted]; decide +kernel)⟩

end NodeWatch.KernelLog
