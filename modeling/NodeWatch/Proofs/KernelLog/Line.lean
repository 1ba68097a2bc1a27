import NodeWatch.KernelLog.Record
import NodeWatch.Proofs.Text.Decimal
import NodeWatch.Proofs.Text.Words

/-!
# Lines of records, read back

Which texts have a line, and what the line of a record still says of it: the time to the
microsecond, and the message up to the white space at its end. The main statement is
`recordLine?_readsBack`.
-/

namespace NodeWatch.KernelLog

open Text

/-- Whether a text gives the record: it does not start with a blank, and the header before its first
semicolon has the time as its third field. -/
def Record.IsGiven (r : Record) (text : List Char) : Prop :=
  text.head? ≠ some ' ' ∧ ∃ header time, text = header ++ ';' :: r.message ∧ ';' ∉ header ∧
    (header.splitOn ',')[2]? = some time ∧ WritesCount time r.micros

lemma parse?_eq_some_iff {text : List Char} {r : Record} :
    Record.parse? text = some r ↔ r.IsGiven text := by
  simp only [Record.parse?, Record.IsGiven, Option.bind_eq_bind, Option.bind_eq_some_iff,
    Option.guard_eq_some', Prod.exists, exists_const, cut?_eq_some_iff, count?_eq_some_iff]
  refine and_congr_right fun _ => ?_
  constructor
  · rintro ⟨header, message, ⟨htext, hheader⟩, time, hfield, micros, htime, hr⟩
    cases hr
    exact ⟨header, time, htext, hheader, hfield, htime⟩
  · rintro ⟨header, time, htext, hheader, hfield, htime⟩
    exact ⟨header, r.message, ⟨htext, hheader⟩, time, hfield, r.micros, htime, rfl⟩

/-- A text gives no record if one of the things that are asked of it is missing. -/
lemma parse?_eq_none_iff {text : List Char} : Record.parse? text = none ↔
    text.head? = some ' ' ∨ ';' ∉ text ∨
      ∃ header message, text = header ++ ';' :: message ∧ ';' ∉ header ∧
        ((header.splitOn ',').length < 3 ∨
          ∃ time, (header.splitOn ',')[2]? = some time ∧ ∀ n, ¬ WritesCount time n) := by
  rw [Option.eq_none_iff_forall_ne_some]
  simp only [ne_eq, parse?_eq_some_iff]
  constructor
  · intro hnone
    by_cases hblank : text.head? = some ' '
    · exact .inl hblank
    by_cases hsemicolon : ';' ∈ text
    · obtain ⟨header, message, htext, hheader⟩ := List.eq_append_cons_of_mem hsemicolon
      refine .inr (.inr ⟨header, message, htext, hheader, ?_⟩)
      rcases hfield : (header.splitOn ',')[2]? with _ | time
      · exact .inl (Nat.lt_succ_of_le (List.getElem?_eq_none_iff.mp hfield))
      · refine .inr ⟨time, rfl, fun n htime => ?_⟩
        exact hnone ⟨n, message⟩ ⟨hblank, header, time, htext, hheader, hfield, htime⟩
    · exact .inr (.inl hsemicolon)
  · rintro hmissing r ⟨hblank, header, time, rfl, hheader, hfield, htime⟩
    rcases hmissing with hstart | hsemicolon | ⟨header', message, htext, hheader', hfaulty⟩
    · exact hblank hstart
    · simp at hsemicolon
    · obtain ⟨rfl, -⟩ := split_inj htext hheader hheader'
      rcases hfaulty with hfew | ⟨time', hfield', hnumber⟩
      · rw [List.getElem?_eq_none (by omega)] at hfield
        cases hfield
      · cases hfield.symm.trans hfield'
        exact hnumber _ htime

/-- Whether a line reads as a time in seconds and microseconds and a text: the seconds are filled up
with blanks to five characters, and the microseconds are six digits. -/
def Reads (line : List Char) (seconds micros : Nat) (shown : List Char) : Prop :=
  ∃ whole part, line = '[' :: (List.replicate (5 - whole.length) ' ' ++ whole ++
      '.' :: (part ++ ']' :: ' ' :: shown)) ∧
    WritesDigits whole seconds ∧ WritesDigits part micros ∧ part.length = 6

section

variable {digits : List Char} {n : Nat} (h : WritesDigits digits n) (k : Nat)

include h

/-- The digits of a number can be told from the blanks before them. -/
lemma filter_isDigit : (List.replicate k ' ' ++ digits).filter Char.isDigit = digits := by
  rw [List.filter_append, List.filter_eq_self.mpr h.2.1]
  simp

lemma dot_not_mem : '.' ∉ List.replicate k ' ' ++ digits := by
  rw [List.mem_append, not_or]
  exact ⟨fun hmem => absurd (List.eq_of_mem_replicate hmem) (by decide),
    fun hmem => absurd (h.2.1 '.' hmem) (by decide)⟩

end

/-- A line reads in one way only. -/
lemma Reads.unique {line shown shown' : List Char} {s s' m m' : Nat} (h : Reads line s m shown)
    (h' : Reads line s' m' shown') : s = s' ∧ m = m' ∧ shown = shown' := by
  obtain ⟨whole, part, hline, hwhole, hpart, hlength⟩ := h
  obtain ⟨whole', part', hline', hwhole', hpart', hlength'⟩ := h'
  have htail := (List.cons_eq_cons.mp (hline.symm.trans hline')).2
  -- the first dot ends the seconds
  obtain ⟨hfront, hback⟩ := split_inj htail (dot_not_mem hwhole _) (dot_not_mem hwhole' _)
  obtain rfl : whole = whole' := by
    rw [← filter_isDigit hwhole, hfront, filter_isDigit hwhole']
  obtain ⟨rfl, hshown⟩ := List.append_inj hback (hlength.trans hlength'.symm)
  exact ⟨hwhole.unique hwhole', hpart.unique hpart', by simpa using hshown⟩

namespace Record

lemma reads_line (r : Record) :
    Reads r.line (r.micros / 1000000) (r.micros % 1000000) (trimEnd r.message) := by
  refine ⟨decimal (r.micros / 1000000), padded 6 '0' (r.micros % 1000000), ?_,
    writesDigits_decimal _, writesDigits_padded _ _, length_padded (by decide) ?_ _⟩
  · simp [line, padded, List.leftpad]
  · exact Nat.mod_lt _ (by decide)

/-- The line of a record reads as its time and its message, and as nothing else. -/
lemma reads_line_iff (r : Record) {seconds micros : Nat} {shown : List Char} :
    Reads r.line seconds micros shown ↔
      seconds * 1000000 + micros = r.micros ∧ micros < 1000000 ∧ shown = trimEnd r.message := by
  constructor
  · intro h
    obtain ⟨rfl, rfl, rfl⟩ := h.unique r.reads_line
    exact ⟨Nat.div_add_mod' _ _, Nat.mod_lt _ (by decide), rfl⟩
  · rintro ⟨htime, hmicros, rfl⟩
    have hseconds : seconds = r.micros / 1000000 := by omega
    have hrest : micros = r.micros % 1000000 := by omega
    rw [hseconds, hrest]
    exact r.reads_line

lemma line_eq_line_iff (r r' : Record) :
    r.line = r'.line ↔ r.micros = r'.micros ∧ trimEnd r.message = trimEnd r'.message := by
  constructor
  · intro h
    obtain ⟨htime, -, hmessage⟩ := r'.reads_line_iff.mp (h ▸ r.reads_line)
    exact ⟨(Nat.div_add_mod' _ _).symm.trans htime, hmessage⟩
  · rintro ⟨htime, hmessage⟩
    rw [line, line, htime, hmessage]

end Record

/-- A text has no line if and only if it starts with a blank, has no semicolon, or has a header with
fewer than three fields or with a third one that is no number of 64 bits. Otherwise its line reads,
in one way only, as seconds and microseconds that make up that number, and as the message, which is
all that follows the first semicolon, without the white space at its end. So two texts have the same
line if and only if their times are the same and their messages are so up to that white space. -/
theorem recordLine?_readsBack (text : List Char) :
    (recordLine? text = none ↔ text.head? = some ' ' ∨ ';' ∉ text ∨
      ∃ header message, text = header ++ ';' :: message ∧ ';' ∉ header ∧
        ((header.splitOn ',').length < 3 ∨
          ∃ time, (header.splitOn ',')[2]? = some time ∧ ∀ n, ¬ WritesCount time n)) ∧
    (∀ line, recordLine? text = some line → ∃ r : Record, r.IsGiven text ∧
      (∀ seconds micros shown, Reads line seconds micros shown ↔
        seconds * 1000000 + micros = r.micros ∧ micros < 1000000 ∧ shown = trimEnd r.message) ∧
      (∃ tail, r.message = trimEnd r.message ++ tail ∧ ∀ c ∈ tail, isSpace c = true) ∧
      ∀ c ∈ (trimEnd r.message).getLast?, isSpace c = false) ∧
    ∀ (other : List Char) (r r' : Record), r.IsGiven text → r'.IsGiven other →
      (recordLine? text = recordLine? other ↔
        r.micros = r'.micros ∧ trimEnd r.message = trimEnd r'.message) := by
  refine ⟨?_, fun line hline => ?_, fun other r r' h h' => ?_⟩
  · rw [recordLine?, Option.map_eq_none_iff, parse?_eq_none_iff]
  · obtain ⟨r, hr, rfl⟩ := Option.map_eq_some_iff.mp hline
    exact ⟨r, parse?_eq_some_iff.mp hr, fun _ _ _ => r.reads_line_iff, exists_trimEnd_eq _,
      fun _ => isSpace_of_getLast?_trimEnd⟩
  · rw [recordLine?, recordLine?, parse?_eq_some_iff.mpr h, parse?_eq_some_iff.mpr h',
      Option.map_some, Option.map_some, Option.some.injEq, r.line_eq_line_iff]

/-- A record of the last microsecond, with the marks of a line in its message. -/
def markedText : List Char :=
  "6,7,+18446744073709551615,-;a; [1.5] b, \t".toList

def markedRecord : Record :=
  ⟨18446744073709551615, "a; [1.5] b, \t".toList⟩

/-- The same time and message, written differently. -/
def plainText : List Char :=
  "4,9,018446744073709551615;a; [1.5] b,".toList

def plainRecord : Record :=
  ⟨18446744073709551615, "a; [1.5] b,".toList⟩

theorem recordLine?_readsBack_marks :
    ∃ line, recordLine? markedText = some line ∧
      Reads line 18446744073709 551615 "a; [1.5] b,".toList ∧
      recordLine? markedText = recordLine? plainText := by
  obtain ⟨-, hread, hsame⟩ := recordLine?_readsBack markedText
  have hmarked : markedRecord.IsGiven markedText := parse?_eq_some_iff.mp (by decide +kernel)
  have hplain : plainRecord.IsGiven plainText := parse?_eq_some_iff.mp (by decide +kernel)
  have hline : recordLine? markedText = some markedRecord.line := by decide +kernel
  obtain ⟨r, hgiven, hreads, -⟩ := hread _ hline
  obtain rfl : r = markedRecord :=
    Option.some.inj ((parse?_eq_some_iff.mpr hgiven).symm.trans (parse?_eq_some_iff.mpr hmarked))
  refine ⟨_, hline, (hreads _ _ _).mpr ?_, (hsame _ _ _ hmarked hplain).mpr ?_⟩
  · decide +kernel
  · decide +kernel

end NodeWatch.KernelLog
