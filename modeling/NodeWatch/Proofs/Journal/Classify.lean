import NodeWatch.Journal.Classify
import NodeWatch.Proofs.Text.Pattern

/-!
# What a line of the kubelet's journal means

The two reports are regular languages. Of the error number of a thread that could not be created
only the first two digits are asked for, so 110 counts as well as 11. The main statement is
`classify?_eq_some_iff_exhaustion`, which also says where this makes no difference;
`not_classify?_iff_meansExhaustion` is a line where it does.
-/

namespace NodeWatch.Journal

open Computability Text

/-- A command could not be started. -/
def forkFailed : Language Char :=
  exactly "fork/exec" * (dot∗ * exactly "resource temporarily unavailable")

/-- A thread could not be created, and the error number begins with 11. -/
def threadFailed : Language Char :=
  exactly "failed to create new OS thread" * (dot∗ * exactly "errno=11")

/-- Whether a line says that no thread could be created and, later in the same stretch, gives an
error number with just these digits. -/
def GivesErrorNumber (line digits : List Char) : Prop :=
  ∃ before gap after,
    line = before ++ ("failed to create new OS thread".toList ++
      (gap ++ ("errno=".toList ++ (digits ++ after)))) ∧
    '\n' ∉ gap ∧ (∀ c ∈ digits, c.isDigit = true) ∧ ∀ c ∈ after.head?, c.isDigit = false

/-- Whether a line says that the node has run out of process numbers or memory; the error number for
this is 11. -/
def MeansExhaustion (line : List Char) : Prop :=
  Occurs forkFailed line ∨ GivesErrorNumber line ['1', '1']

lemma reportsExhaustion_iff (line : List Char) :
    reportsExhaustion line = true ↔ Occurs forkFailed line ∨ Occurs threadFailed line := by
  rw [reportsExhaustion, Bool.or_eq_true]
  exact or_congr (any_stretches_iff (by decide) (by decide) line)
    (any_stretches_iff (by decide) (by decide) line)

lemma isDigit_of_mem_takeWhile {rest : List Char} {c : Char}
    (hc : c ∈ '1' :: '1' :: rest.takeWhile Char.isDigit) : c.isDigit = true := by
  rw [List.mem_cons, List.mem_cons] at hc
  rcases hc with rfl | rfl | hc
  · rfl
  · rfl
  · exact List.all_eq_true.mp List.all_takeWhile c hc

lemma isDigit_head?_dropWhile {rest : List Char} {c : Char}
    (hc : c ∈ (rest.dropWhile Char.isDigit).head?) : c.isDigit = false := by
  have hstop := List.head?_dropWhile_not Char.isDigit rest
  rwa [Option.mem_def.mp hc] at hstop

/-- After `errno=11` the number goes on as long as there are digits. -/
lemma occurs_threadFailed_iff {line : List Char} :
    Occurs threadFailed line ↔ ∃ more, GivesErrorNumber line ('1' :: '1' :: more) := by
  rw [threadFailed, occurs_exactly_mul_iff]
  simp only [starts_mul_iff, starts_exactly_iff, mem_dot_kstar]
  constructor
  · rintro ⟨before, _, rfl, gap, _, rfl, hgap, rest, rfl⟩
    refine ⟨rest.takeWhile Char.isDigit, before, gap, rest.dropWhile Char.isDigit, ?_, hgap,
      fun c => isDigit_of_mem_takeWhile, fun c => isDigit_head?_dropWhile⟩
    rw [List.cons_append, List.cons_append, List.takeWhile_append_dropWhile]
    rfl
  · rintro ⟨more, before, gap, after, rfl, hgap, -, -⟩
    exact ⟨before, _, rfl, gap, _, rfl, hgap, more ++ after, rfl⟩

/-- A line is classified as a fatal condition if it reports that a command could not be started, or
that a thread could not be created with an error number that begins with 11; no other line is
classified. If 11 is the only such number that the line gives, this is what it means. -/
theorem classify?_eq_some_iff_exhaustion (line : List Char) :
    exhaustionCondition.severity = .fatal ∧
    exhaustionCondition.reason = "ForkFailedOutOfPIDs" ∧
    (classify? line = some exhaustionCondition ↔
      Occurs forkFailed line ∨ ∃ more, GivesErrorNumber line ('1' :: '1' :: more)) ∧
    (classify? line = none ↔
      ¬ Occurs forkFailed line ∧ ∀ digits, GivesErrorNumber line digits → ¬ ['1', '1'] <+: digits) ∧
    ((∀ more, GivesErrorNumber line ('1' :: '1' :: more) → more = []) →
      (classify? line = some exhaustionCondition ↔ MeansExhaustion line)) := by
  have hsome : classify? line = some exhaustionCondition ↔
      Occurs forkFailed line ∨ ∃ more, GivesErrorNumber line ('1' :: '1' :: more) := by
    rw [← occurs_threadFailed_iff, ← reportsExhaustion_iff, classify?]
    split_ifs with h <;> simp [h]
  have hnone : classify? line = none ↔ ¬ classify? line = some exhaustionCondition := by
    rw [classify?]
    split_ifs <;> simp
  refine ⟨rfl, rfl, hsome, ?_, fun honly => ?_⟩
  · rw [hnone, hsome, not_or, not_exists]
    refine and_congr_right fun _ => ⟨?_, ?_⟩
    · rintro hno digits hgives ⟨more, rfl⟩
      exact hno more hgives
    · intro hno more hgives
      exact hno _ hgives ⟨more, rfl⟩
  · rw [hsome, MeansExhaustion]
    refine or_congr_right ⟨?_, fun hgives => ⟨[], hgives⟩⟩
    rintro ⟨more, hgives⟩
    rwa [honly more hgives] at hgives

/-- A thread could not be created because something timed out. -/
def timedOut : List Char :=
  "failed to create new OS thread (errno=110)".toList

/-- A thread that could not be created for another reason is reported. -/
theorem not_classify?_iff_meansExhaustion :
    classify? timedOut = some exhaustionCondition ∧ ¬ MeansExhaustion timedOut ∧
      ¬ ∀ line, classify? line = some exhaustionCondition ↔ MeansExhaustion line := by
  have hreported : classify? timedOut = some exhaustionCondition := by decide +kernel
  have hgoesOn : ∀ rest ∈ timedOut.tails,
      "errno=11".toList.isPrefixOf rest = true → (rest.drop 8).head? = some '0' := by
    decide +kernel
  have hmeans : ¬ MeansExhaustion timedOut := by
    rintro (hfork | ⟨before, gap, after, hline, -, -, hstop⟩)
    · have hcontains : contains "fork/exec".toList timedOut = true := by
        obtain ⟨before, rest, hsplit, -⟩ := occurs_exactly_mul_iff.mp hfork
        exact contains_iff.mpr ⟨before, rest, hsplit⟩
      exact absurd hcontains (by decide +kernel)
    · have hmem : "errno=11".toList ++ after ∈ timedOut.tails := by
        rw [List.mem_tails, hline]
        exact ⟨before ++ "failed to create new OS thread".toList ++ gap, by
          simp only [List.append_assoc]; rfl⟩
      have hzero : after.head? = some '0' :=
        hgoesOn _ hmem (List.isPrefixOf_iff_prefix.mpr ⟨after, rfl⟩)
      exact absurd (hstop '0' hzero) (by decide)
  exact ⟨hreported, hmeans, fun hall => hmeans ((hall timedOut).mp hreported)⟩

end NodeWatch.Journal
