import NodeWatch.Cron.Entry
import NodeWatch.Proofs.Cron.Timestamp
import NodeWatch.Proofs.Text.Words

/-!
# Reading entries back

Cron writes an entry as a timestamp, where it comes from, and the command that was run. Reading the
line gives the timestamp and the command again (`Entry.parse_line`).
-/

namespace NodeWatch.Cron

open Text

/-- A numeral is a word. -/
lemma isWord_of_writesDigits {digits : List Char} {n : Nat} (h : WritesDigits digits n) :
    IsWord digits :=
  ⟨h.1, by simpa [isSolid] using fun c hc => isSpace_of_isDigit (h.2.1 c hc)⟩

lemma isWord_monthName {month : Nat} (h : 1 ≤ month ∧ month ≤ 12) : IsWord (monthName month) := by
  obtain ⟨hlow, hhigh⟩ := h
  interval_cases month <;> exact ⟨by decide, by decide⟩

lemma isWord_marker : IsWord "CMD".toList :=
  ⟨by decide, by decide⟩

lemma Timestamp.isWord_clock (t : Timestamp) : IsWord t.clock := by
  have hcolon : isSpace ':' = false := by
    decide
  have hpadded (n : Nat) : isSolid (padded 2 '0' n) = true :=
    (isWord_of_writesDigits (writesDigits_padded 2 n)).2
  refine ⟨by simp [clock], ?_⟩
  rw [clock, isSolid_append, isSolid_cons, isSolid_append, isSolid_cons, hpadded, hpadded, hpadded,
    hcolon]
  rfl

/-- What a line of the log says beside the time and the command, and how many blanks more than one
stand after its words. -/
structure Header where
  host : List Char
  tag : List Char
  user : List Char
  blanks : Nat → Nat := fun _ => 0
  isHost : IsWord host ∧ host ≠ "CMD".toList
  isTag : isSolid tag = true
  isUser : isSolid user = true

namespace Header

/-- The words before the marker. -/
def words (h : Header) (t : Timestamp) : List (List Char) :=
  t.words ++ [h.host, h.tag ++ [':'], '(' :: (h.user ++ [')'])]

variable (h : Header) {t : Timestamp}

lemma isWord_words (ht : t.IsValid) : ∀ word ∈ h.words t, IsWord word := by
  have htag : IsWord (h.tag ++ [':']) := by
    refine ⟨by simp, ?_⟩
    rw [isSolid_append, h.isTag]
    decide
  have huser : IsWord ('(' :: (h.user ++ [')'])) := by
    refine ⟨by simp, ?_⟩
    rw [isSolid_cons, isSolid_append, h.isUser]
    decide
  simp only [words, Timestamp.words, List.cons_append, List.nil_append, List.forall_mem_cons]
  exact ⟨isWord_monthName ht.month, isWord_of_writesDigits (writesDigits_decimal _), t.isWord_clock,
    h.isHost.1, htag, huser, by simp⟩

lemma ne_marker (ht : t.IsValid) : ∀ word ∈ h.words t, word ≠ "CMD".toList := by
  have hmonth : monthName t.month ≠ "CMD".toList := by
    obtain ⟨hlow, hhigh⟩ := ht.month
    generalize t.month = month at hlow hhigh
    interval_cases month <;> decide
  have hday : decimal t.day ≠ "CMD".toList := by
    intro heq
    have hdigits := (writesDigits_decimal t.day).2.1
    rw [heq] at hdigits
    exact absurd hdigits (by simp)
  -- a colon stands in the time and in the tag
  have hcolon : ∀ {word : List Char}, ':' ∈ word → word ≠ "CMD".toList := by
    rintro _ hmem rfl
    exact absurd hmem (by decide)
  simp only [words, Timestamp.words, List.cons_append, List.nil_append, List.forall_mem_cons]
  exact ⟨hmonth, hday, hcolon (by simp [Timestamp.clock]), h.isHost.2, hcolon (by simp), by simp,
    by simp⟩

/-- The words with the blanks after them. -/
def spaced (t : Timestamp) : List (List Char × Nat) :=
  (h.words t).mapIdx fun i word => (word, h.blanks i)

lemma fst_mem_words {part : List Char × Nat} (hpart : part ∈ h.spaced t) :
    part.1 ∈ h.words t := by
  obtain ⟨i, hi, rfl⟩ := List.mem_mapIdx.mp hpart
  exact List.getElem_mem hi

/-- What stands before the command in the line of an entry does not depend on the command. -/
lemma fields_append (ht : t.IsValid) (rest : List Char) :
    fields (spread (h.spaced t) ++ ("CMD".toList ++ ' ' :: rest)) =
      h.words t ++ "CMD".toList :: fields rest := by
  have hwords : ∀ part ∈ h.spaced t, IsWord part.1 :=
    fun part hpart => h.isWord_words ht part.1 (h.fst_mem_words hpart)
  rw [fields_spread hwords, fields_word_append isWord_marker]
  rfl

lemma after?_append (ht : t.IsValid) (rest : List Char) :
    after? " CMD ".toList (spread (h.spaced t) ++ ("CMD".toList ++ ' ' :: rest)) = some rest := by
  have hne : h.spaced t ≠ [] := by
    simp [spaced, words]
  refine after?_spread isWord_marker hne (fun part hpart => ?_) _
  have hmem := h.fst_mem_words hpart
  exact ⟨(h.isWord_words ht part.1 hmem).blank_not_mem, h.ne_marker ht part.1 hmem⟩

/-- The line of an entry: `Mon D HH:MM:SS host tag: (user) CMD (command)`. -/
def line (h : Header) (t : Timestamp) (command : List Char) : List Char :=
  spread (h.spaced t) ++ ("CMD".toList ++ ' ' :: '(' :: (command ++ [')']))

end Header

/-- The command is what follows the marker, whatever that is. -/
lemma Entry.parse_append (h : Header) {t : Timestamp} (ht : t.IsValid) (rest : List Char) :
    Entry.parse (spread (h.spaced t) ++ ("CMD".toList ++ ' ' :: rest)) =
      .ok (some ⟨t, String.ofList (trim rest)⟩) := by
  have hfields := h.fields_append ht rest
  have hcount : ¬ (fields (spread (h.spaced t) ++ ("CMD".toList ++ ' ' :: rest))).length <
      leastFields := by
    rw [hfields, List.length_append, List.length_cons, leastFields]
    simp only [Header.words, Timestamp.words, List.length_append, List.length_cons, List.length_nil]
    omega
  have hstamp : (fields (spread (h.spaced t) ++ ("CMD".toList ++ ' ' :: rest))).take 3 =
      t.words := by
    rw [hfields]
    rfl
  rw [Entry.parse, h.after?_append ht]
  simp only [hcount, if_false, hstamp, Timestamp.parse_words ht]

/-- The line of an entry is read as that entry. -/
lemma Entry.parse_line (h : Header) {t : Timestamp} (ht : t.IsValid) (command : List Char) :
    Entry.parse (h.line t command) =
      .ok (some ⟨t, String.ofList ('(' :: (command ++ [')']))⟩) := by
  rw [Header.line, parse_append h ht, trim_between (by decide) (by decide)]

example :
    let header : Header := {
      host := "host".toList
      tag := "CROND[13867]".toList
      user := "root".toList
      isHost := ⟨⟨by decide, by decide⟩, by decide⟩
      isTag := by decide
      isUser := by decide }
    header.line ⟨9, 17, 21, 44, 1⟩ "/usr/bin/job".toList =
      "Sep 17 21:44:01 host CROND[13867]: (root) CMD (/usr/bin/job)".toList := by
  decide +kernel

end NodeWatch.Cron
