import Mathlib.Algebra.BigOperators.Group.List.Basic
import Mathlib.Algebra.GroupWithZero.Nat
import Mathlib.Data.List.Nodup
import Mathlib.Tactic.Common
import NodeWatch.Stats

/-!
# What statistics count

The counts are described by the conditions that were recorded, one by one: a count is the number of
recorded conditions of a severity and a reason, and all counts add up to the number of conditions.
-/

namespace NodeWatch

lemma Table.sum_values {κ : Type} [BEq κ] [LawfulBEq κ] (t : Table κ Nat) (k : κ) :
    t.values.sum = (t.get? k).getD 0 + (t.erase k).values.sum := by
  obtain ⟨entries, hdistinct⟩ := t
  simp only [values, get?, erase]
  induction entries with
  | nil => rfl
  | cons entry entries ih =>
    obtain ⟨key, n⟩ := entry
    rw [List.map_cons, List.nodup_cons] at hdistinct
    by_cases hkey : key = k
    · subst hkey
      have hkeep : (entries.filter fun entry => entry.1 != key) = entries := by
        refine List.filter_eq_self.mpr fun entry hentry => ?_
        have hmem : entry.1 ∈ entries.map Prod.fst := List.mem_map_of_mem hentry
        have hne : entry.1 ≠ key := fun heq => hdistinct.1 (heq ▸ hmem)
        simpa using hne
      simp [hkeep]
    · have hne : (k == key) = false := by simpa using Ne.symm hkey
      simp [List.lookup_cons, hne, hkey, ih hdistinct.2, Nat.add_left_comm]

namespace Stats

lemma count_record (s : Stats) (c : Condition) (severity : Severity) (reason : String) :
    (s.record c).count severity reason =
      s.count severity reason + if c.severity = severity ∧ c.reason = reason then 1 else 0 := by
  simp only [count, record]
  split_ifs with hsame
  · obtain ⟨rfl, rfl⟩ := hsame
    simp
  · have hne : (severity, reason) ≠ (c.severity, c.reason) := by
      rintro heq
      exact hsame ⟨(Prod.mk.inj heq).1.symm, (Prod.mk.inj heq).2.symm⟩
    simp [Table.get?_set_of_ne _ hne]

/-- All that was counted. -/
def total (s : Stats) : Nat :=
  s.counts.values.sum

lemma total_record (s : Stats) (c : Condition) : (s.record c).total = s.total + 1 := by
  have hset : (s.record c).counts.values =
      (s.count c.severity c.reason + 1) :: (s.counts.erase (c.severity, c.reason)).values := rfl
  rw [total, total, hset, List.sum_cons, s.counts.sum_values (c.severity, c.reason), count,
    Nat.add_right_comm]

/-- Only what was recorded has a count. -/
lemma pos_record {s : Stats} (hpos : ∀ n ∈ s.counts.values, 0 < n) (c : Condition) :
    ∀ n ∈ (s.record c).counts.values, 0 < n := by
  intro n hn
  rcases List.mem_cons.mp hn with rfl | hn
  · exact Nat.succ_pos _
  · exact hpos n (((List.filter_sublist).map Prod.snd).subset hn)

lemma mem_fatalReasons_record (s : Stats) (c : Condition) (reason : String) :
    reason ∈ (s.record c).fatalReasons ↔
      reason ∈ s.fatalReasons ∨ (c.severity = .fatal ∧ c.reason = reason) := by
  simp only [record]
  by_cases hfatal : c.severity = .fatal <;> by_cases hold : c.reason ∈ s.fatalReasons
  · have hmem : c.reason = reason → reason ∈ s.fatalReasons := fun heq => heq ▸ hold
    simpa [hfatal, hold] using hmem
  · simp [hfatal, hold, or_comm, eq_comm]
  · simp [hfatal]
  · simp [hfatal]

/-- The statistics after conditions in a row. -/
def recordAll (s : Stats) (cs : List Condition) : Stats :=
  cs.foldl record s

lemma count_recordAll (s : Stats) (cs : List Condition) (severity : Severity) (reason : String) :
    (s.recordAll cs).count severity reason =
      s.count severity reason + cs.countP fun c => c.severity = severity ∧ c.reason = reason := by
  induction cs generalizing s with
  | nil => rfl
  | cons c cs ih =>
    rw [recordAll, List.foldl_cons, ← recordAll, ih, count_record, List.countP_cons]
    simp only [decide_eq_true_eq, Nat.add_assoc]
    exact congrArg _ (Nat.add_comm _ _)

lemma total_recordAll (s : Stats) (cs : List Condition) :
    (s.recordAll cs).total = s.total + cs.length := by
  induction cs generalizing s with
  | nil => rfl
  | cons c cs ih =>
    rw [recordAll, List.foldl_cons, ← recordAll, ih, total_record, List.length_cons,
      Nat.add_assoc, Nat.add_comm 1]

lemma pos_recordAll {s : Stats} (hpos : ∀ n ∈ s.counts.values, 0 < n) (cs : List Condition) :
    ∀ n ∈ (s.recordAll cs).counts.values, 0 < n :=
  List.foldlRecOn (motive := fun s : Stats => ∀ n ∈ s.counts.values, 0 < n) _ _ hpos
    fun _ hpos c _ => pos_record hpos c

lemma mem_fatalReasons_recordAll (s : Stats) (cs : List Condition) (reason : String) :
    reason ∈ (s.recordAll cs).fatalReasons ↔
      reason ∈ s.fatalReasons ∨ ∃ c ∈ cs, c.severity = .fatal ∧ c.reason = reason := by
  induction cs generalizing s with
  | nil => simp [recordAll]
  | cons c cs ih =>
    rw [recordAll, List.foldl_cons, ← recordAll, ih, mem_fatalReasons_record,
      List.exists_mem_cons_iff, or_assoc]

lemma mem_conditions_snapshot (s : Stats) (row : ConditionCount) :
    row ∈ s.snapshot.conditions ↔
      s.counts.get? (row.severity, row.reason) = some row.count := by
  rw [Table.get?_eq_some_iff, snapshot, List.mem_mergeSort, List.mem_map]
  constructor
  · rintro ⟨⟨⟨severity, reason⟩, n⟩, hentry, rfl⟩
    exact hentry
  · exact fun hentry => ⟨_, hentry, rfl⟩

/-- A snapshot has the counts that are not zero. -/
lemma mem_conditions_snapshot_iff_count {s : Stats} (hpos : ∀ n ∈ s.counts.values, 0 < n)
    (row : ConditionCount) :
    row ∈ s.snapshot.conditions ↔ 0 < row.count ∧ row.count = s.count row.severity row.reason := by
  rw [mem_conditions_snapshot, count]
  constructor
  · intro hrow
    exact ⟨hpos _ (s.counts.mem_values.mpr ⟨_, hrow⟩), by rw [hrow, Option.getD_some]⟩
  · rintro ⟨hrow, heq⟩
    rcases hfound : s.counts.get? (row.severity, row.reason) with _ | n
    · rw [hfound, Option.getD_none] at heq
      exact absurd heq (Nat.ne_of_gt hrow)
    · rw [heq, hfound, Option.getD_some]

lemma mem_fatalReasons_snapshot (s : Stats) (reason : String) :
    reason ∈ s.snapshot.fatalReasons ↔ reason ∈ s.fatalReasons :=
  List.mem_mergeSort

lemma sum_conditions_snapshot (s : Stats) :
    (s.snapshot.conditions.map ConditionCount.count).sum = s.total := by
  rw [snapshot, ((List.mergeSort_perm _ before).map ConditionCount.count).sum_eq, List.map_map]
  rfl

end Stats

end NodeWatch
