import Mathlib.Data.List.Sort
import Mathlib.Data.String.Basic
import NodeWatch.Proofs.Stats
import NodeWatch.Proofs.Text.Order

/-!
# Snapshots of statistics

A snapshot is sorted, so it does not show in which order the tables of the statistics are gone
through, nor in which order conditions were recorded. The main statement is
`snapshot_of_recorded`.
-/

namespace NodeWatch

open Text

lemma Severity.name_injective : Function.Injective Severity.name := by
  intro a b h
  exact Option.some.inj (by rw [← ofName?_name a, h, ofName?_name])

namespace ConditionCount

/-- The severity and the reason that a row counts. -/
def key (row : ConditionCount) : Severity × String :=
  (row.severity, row.reason)

/-- Rows are in the order of the bytes of their reasons, then of the names of their severities. -/
def Precedes (a b : ConditionCount) : Prop :=
  encode a.reason.toList < encode b.reason.toList ∨
    a.reason = b.reason ∧ encode a.severity.name.toList < encode b.severity.name.toList

end ConditionCount

lemma encode_lt_iff_lt {a b : String} : encode a.toList < encode b.toList ↔ a < b := by
  rw [encode_lt_encode_iff, String.lt_iff_toList_lt]

/-- What a table gives for a key does not depend on the order of its entries. -/
lemma Table.get?_congr {κ ν : Type} [BEq κ] [LawfulBEq κ] {t u : Table κ ν}
    (h : t.entries.Perm u.entries) (k : κ) : t.get? k = u.get? k := by
  ext v
  rw [get?_eq_some_iff, get?_eq_some_iff, h.mem_iff]

namespace Stats

open ConditionCount

lemma before_iff {a b : ConditionCount} : before a b = true ↔
    a.reason < b.reason ∨ a.reason = b.reason ∧ a.severity.name ≤ b.severity.name := by
  rw [before]
  split_ifs with h
  · simp [h]
  · simp [h]

lemma before_trans (a b c : ConditionCount) (hab : before a b = true) (hbc : before b c = true) :
    before a c = true := by
  rw [before_iff] at *
  rcases hab with hab | ⟨hab, hab'⟩ <;> rcases hbc with hbc | ⟨hbc, hbc'⟩
  · exact .inl (lt_trans hab hbc)
  · exact .inl (hbc ▸ hab)
  · exact .inl (hab ▸ hbc)
  · exact .inr ⟨hab.trans hbc, le_trans hab' hbc'⟩

lemma before_total (a b : ConditionCount) : (before a b || before b a) = true := by
  rw [Bool.or_eq_true, before_iff, before_iff]
  rcases lt_trichotomy a.reason b.reason with h | h | h
  · exact .inl (.inl h)
  · rcases le_total a.severity.name b.severity.name with h' | h'
    · exact .inl (.inr ⟨h, h'⟩)
    · exact .inr (.inr ⟨h.symm, h'⟩)
  · exact .inr (.inl h)

/-- Rows that count different things are in a strict order. -/
lemma precedes_of_before {a b : ConditionCount} (h : before a b = true) (hne : a.key ≠ b.key) :
    a.Precedes b := by
  rw [Precedes, encode_lt_iff_lt, encode_lt_iff_lt]
  rcases before_iff.mp h with hlt | ⟨heq, hle⟩
  · exact .inl hlt
  · refine .inr ⟨heq, lt_of_le_of_ne hle fun hname => hne ?_⟩
    exact Prod.ext (Severity.name_injective hname) heq

lemma precedes_asymm {a b : ConditionCount} (h : a.Precedes b) : ¬ b.Precedes a := by
  rintro (hlt | ⟨heq, hlt⟩) <;> rcases h with hlt' | ⟨heq', hlt'⟩
  · exact List.lt_asymm hlt hlt'
  · exact List.lt_irrefl _ (heq' ▸ hlt)
  · exact List.lt_irrefl _ (heq ▸ hlt')
  · exact List.lt_asymm hlt hlt'

instance : Std.Irrefl Precedes :=
  ⟨fun _ h => precedes_asymm h h⟩

instance : Std.Antisymm Precedes :=
  ⟨fun _ _ h h' => absurd h' (precedes_asymm h)⟩

lemma pairwise_conditions_snapshot (s : Stats) : s.snapshot.conditions.Pairwise Precedes := by
  have hkeys : (s.snapshot.conditions.map key).Nodup := by
    rw [snapshot, ((List.mergeSort_perm _ before).map key).nodup_iff, List.map_map]
    exact s.counts.distinct
  have hsorted : s.snapshot.conditions.Pairwise fun a b => before a b = true :=
    List.pairwise_mergeSort before_trans before_total _
  exact hsorted.imp₂ (fun _ _ => precedes_of_before) (List.pairwise_map.mp hkeys)

lemma pairwise_fatalReasons_snapshot {s : Stats} (hdistinct : s.fatalReasons.Nodup) :
    s.snapshot.fatalReasons.Pairwise (· < ·) := by
  have hsorted : s.snapshot.fatalReasons.Pairwise (· ≤ ·) := List.pairwise_mergeSort' _ _
  have hnodup : s.snapshot.fatalReasons.Nodup := (List.mergeSort_perm _ _).nodup_iff.mpr hdistinct
  exact hsorted.imp₂ (fun _ _ => lt_of_le_of_ne) hnodup

/-! ### Recordings -/

lemma nodup_fatalReasons_record {s : Stats} (h : s.fatalReasons.Nodup) (c : Condition) :
    (s.record c).fatalReasons.Nodup := by
  rw [record]
  split_ifs with hnew
  · simp only [Bool.and_eq_true, Bool.not_eq_true', List.contains_eq_mem, decide_eq_false_iff_not]
      at hnew
    exact List.nodup_cons.mpr ⟨hnew.2, h⟩
  · exact h

/-- How often conditions of a severity and a reason occur. -/
def occurrences (cs : List Condition) (severity : Severity) (reason : String) : Nat :=
  cs.countP fun c => c.severity = severity ∧ c.reason = reason

lemma occurrences_concat (cs : List Condition) (c : Condition) (severity : Severity)
    (reason : String) : occurrences (cs ++ [c]) severity reason = occurrences cs severity reason +
      if c.severity = severity ∧ c.reason = reason then 1 else 0 := by
  simp [occurrences, List.countP_append]

/-- The tables have the same entries, which are gone through in another order. -/
structure Reorders (s t : Stats) : Prop where
  counts : s.counts.entries.Perm t.counts.entries
  fatalReasons : s.fatalReasons.Perm t.fatalReasons

/-- Statistics that hold the conditions recorded so far. Their tables may come in another order at
any time. -/
inductive Recorded : List Condition → Stats → Prop
  | nil : Recorded [] {}
  | record {cs : List Condition} {s : Stats} (c : Condition) :
      Recorded cs s → Recorded (cs ++ [c]) (s.record c)
  | reorder {cs : List Condition} {s t : Stats} :
      Recorded cs s → t.Reorders s → Recorded cs t

/-- What statistics say of the conditions that were recorded. -/
structure Tallies (s : Stats) (cs : List Condition) : Prop where
  count_eq : ∀ severity reason, s.count severity reason = occurrences cs severity reason
  pos : ∀ n ∈ s.counts.values, 0 < n
  total_eq : s.total = cs.length
  mem_fatalReasons : ∀ reason,
    reason ∈ s.fatalReasons ↔ ∃ c ∈ cs, c.severity = .fatal ∧ c.reason = reason
  distinct : s.fatalReasons.Nodup

section

variable {s t : Stats} {cs cs' : List Condition}

lemma Tallies.empty : Tallies {} [] where
  count_eq _ _ := rfl
  pos := by simp [Table.values]
  total_eq := rfl
  mem_fatalReasons := by simp
  distinct := List.nodup_nil

lemma Tallies.record (h : s.Tallies cs) (c : Condition) : (s.record c).Tallies (cs ++ [c]) where
  count_eq severity reason := by
    rw [count_record, h.count_eq, occurrences_concat]
  pos := pos_record h.pos c
  total_eq := by rw [total_record, h.total_eq, List.length_append, List.length_singleton]
  mem_fatalReasons reason := by
    rw [mem_fatalReasons_record, h.mem_fatalReasons]
    simp [or_and_right, exists_or]
  distinct := nodup_fatalReasons_record h.distinct c

lemma Tallies.reorder (h : s.Tallies cs) (ht : t.Reorders s) : t.Tallies cs where
  count_eq severity reason := by
    rw [← h.count_eq, count, count, Table.get?_congr ht.counts]
  pos n hn := h.pos n ((ht.counts.map Prod.snd).mem_iff.mp hn)
  total_eq := by
    rw [← h.total_eq]
    exact (ht.counts.map Prod.snd).sum_eq
  mem_fatalReasons reason := ht.fatalReasons.mem_iff.trans (h.mem_fatalReasons reason)
  distinct := ht.fatalReasons.nodup_iff.mpr h.distinct

lemma Recorded.tallies (h : Recorded cs s) : s.Tallies cs := by
  induction h with
  | nil => exact .empty
  | record c _ ih => exact ih.record c
  | reorder _ ht ih => exact ih.reorder ht

/-! ### What a snapshot shows -/

lemma Tallies.mem_conditions (h : s.Tallies cs) (row : ConditionCount) :
    row ∈ s.snapshot.conditions ↔
      0 < row.count ∧ row.count = occurrences cs row.severity row.reason := by
  rw [mem_conditions_snapshot_iff_count h.pos, h.count_eq]

/-- There is one row for what was recorded, and none for what was not. -/
lemma Tallies.filter_conditions (h : s.Tallies cs) (severity : Severity) (reason : String) :
    (s.snapshot.conditions.filter fun row => row.severity = severity ∧ row.reason = reason) =
      if occurrences cs severity reason = 0 then []
      else [⟨severity, reason, occurrences cs severity reason⟩] := by
  refine ((pairwise_conditions_snapshot s).filter _).eq_of_mem_iff ?_ fun row => ?_
  · split_ifs
    · exact .nil
    · exact List.pairwise_singleton _ _
  · rw [List.mem_filter, h.mem_conditions, decide_eq_true_eq]
    split_ifs with hzero
    · simp only [List.not_mem_nil, iff_false]
      rintro ⟨⟨hpos, hcount⟩, rfl, rfl⟩
      omega
    · rw [List.mem_singleton]
      constructor
      · rintro ⟨⟨-, hcount⟩, rfl, rfl⟩
        rw [← hcount]
      · rintro rfl
        exact ⟨⟨Nat.pos_of_ne_zero hzero, rfl⟩, rfl, rfl⟩

/-- No count is greater than the number of conditions. -/
lemma Tallies.count_le (h : s.Tallies cs) {row : ConditionCount}
    (hrow : row ∈ s.snapshot.conditions) : row.count ≤ cs.length := by
  rw [((h.mem_conditions row).mp hrow).2, occurrences]
  exact List.countP_le_length

lemma Tallies.mem_fatalReasons_snapshot (h : s.Tallies cs) (reason : String) :
    reason ∈ s.snapshot.fatalReasons ↔ ∃ c ∈ cs, c.severity = .fatal ∧ c.reason = reason :=
  (Stats.mem_fatalReasons_snapshot s reason).trans (h.mem_fatalReasons reason)

/-- A snapshot shows how often conditions were recorded, and no order of them. -/
lemma Tallies.snapshot_eq (h : s.Tallies cs) (h' : t.Tallies cs') (hperm : cs.Perm cs') :
    s.snapshot = t.snapshot := by
  have hconditions : s.snapshot.conditions = t.snapshot.conditions := by
    refine (pairwise_conditions_snapshot s).eq_of_mem_iff (pairwise_conditions_snapshot t)
      fun row => ?_
    rw [h.mem_conditions, h'.mem_conditions, occurrences, occurrences, hperm.countP_eq]
  have hfatal : s.snapshot.fatalReasons = t.snapshot.fatalReasons := by
    refine (pairwise_fatalReasons_snapshot h.distinct).eq_of_mem_iff
      (pairwise_fatalReasons_snapshot h'.distinct) fun reason => ?_
    rw [h.mem_fatalReasons_snapshot, h'.mem_fatalReasons_snapshot]
    simp only [hperm.mem_iff]
  exact congrArg₂ Snapshot.mk hconditions hfatal

/-- One more condition leaves the rows of other conditions as they are. -/
lemma Tallies.filter_conditions_concat {c : Condition} (h : s.Tallies cs)
    (h' : t.Tallies (cs ++ [c])) :
    (t.snapshot.conditions.filter fun row =>
      ¬ (row.severity = c.severity ∧ row.reason = c.reason)) =
        s.snapshot.conditions.filter fun row =>
          ¬ (row.severity = c.severity ∧ row.reason = c.reason) := by
  refine ((pairwise_conditions_snapshot t).filter _).eq_of_mem_iff
    ((pairwise_conditions_snapshot s).filter _) fun row => ?_
  rw [List.mem_filter, List.mem_filter, h.mem_conditions, h'.mem_conditions, decide_eq_true_eq]
  refine and_congr_left fun hother => ?_
  have hne : ¬ (c.severity = row.severity ∧ c.reason = row.reason) := fun hsame =>
    hother ⟨hsame.1.symm, hsame.2.symm⟩
  rw [occurrences_concat, if_neg hne, Nat.add_zero]

end

/-- For statistics that hold any conditions, whatever the order of their tables:

* a snapshot has one row for each severity and reason that occur together, with the number of times
  that they do, and no other row; the rows are strictly increasing by the bytes of the reason and
  the name of the severity;
* the fatal reasons are the reasons of the fatal conditions, and they are strictly increasing;
* the same conditions in another order have the same snapshot;
* the counts add up to the number of conditions, so that words of 64 bits hold them as long as there
  are fewer than `2 ^ 64` conditions;
* one more condition changes the row of its severity and reason, which it makes if there is none,
  and leaves all other rows as they are. -/
theorem snapshot_of_recorded {cs : List Condition} {s : Stats} (h : Recorded cs s) :
    (∀ severity reason, (s.snapshot.conditions.filter fun row =>
      row.severity = severity ∧ row.reason = reason) =
        if occurrences cs severity reason = 0 then []
        else [⟨severity, reason, occurrences cs severity reason⟩]) ∧
    s.snapshot.conditions.Pairwise Precedes ∧
    (∀ reason, reason ∈ s.snapshot.fatalReasons ↔
      ∃ c ∈ cs, c.severity = .fatal ∧ c.reason = reason) ∧
    (s.snapshot.fatalReasons.Pairwise fun a b => encode a.toList < encode b.toList) ∧
    (∀ cs' t, cs.Perm cs' → Recorded cs' t → s.snapshot = t.snapshot) ∧
    (s.snapshot.conditions.map ConditionCount.count).sum = cs.length ∧
    (cs.length < 2 ^ 64 → ∀ row ∈ s.snapshot.conditions,
      (UInt64.ofNat row.count).toNat = row.count) ∧
    ∀ c t, Recorded (cs ++ [c]) t →
      (t.snapshot.conditions.filter fun row =>
        row.severity = c.severity ∧ row.reason = c.reason) =
          [⟨c.severity, c.reason, occurrences cs c.severity c.reason + 1⟩] ∧
      (t.snapshot.conditions.filter fun row =>
        ¬ (row.severity = c.severity ∧ row.reason = c.reason)) =
          s.snapshot.conditions.filter fun row =>
            ¬ (row.severity = c.severity ∧ row.reason = c.reason) := by
  have hs := h.tallies
  refine ⟨hs.filter_conditions, pairwise_conditions_snapshot s, hs.mem_fatalReasons_snapshot, ?_,
    fun cs' t hperm ht => hs.snapshot_eq ht.tallies hperm, ?_, fun hlt row hrow => ?_,
    fun c t ht => ⟨?_, ?_⟩⟩
  · exact (pairwise_fatalReasons_snapshot hs.distinct).imp encode_lt_iff_lt.mpr
  · rw [sum_conditions_snapshot, hs.total_eq]
  · exact UInt64.toNat_ofNat_of_lt' (Nat.lt_of_le_of_lt (hs.count_le hrow) hlt)
  · have hcount : occurrences (cs ++ [c]) c.severity c.reason =
        occurrences cs c.severity c.reason + 1 := by
      rw [occurrences_concat, if_pos ⟨rfl, rfl⟩]
    rw [ht.tallies.filter_conditions, hcount, if_neg (Nat.succ_ne_zero _)]
  · exact hs.filter_conditions_concat ht.tallies

def bugCondition : Condition :=
  { reason := "KernelBug", severity := .warning }

def forkCondition : Condition :=
  { reason := "ForkFailedOutOfPIDs", severity := .fatal }

/-- The tables after the bug and the fork, with the counts in another order than they were made. -/
def turned : Stats where
  counts := ⟨[((.warning, "KernelBug"), 1), ((.fatal, "ForkFailedOutOfPIDs"), 1)], by decide⟩
  fatalReasons := ["ForkFailedOutOfPIDs"]

theorem snapshot_of_recorded_turned :
    Recorded [bugCondition, forkCondition] turned ∧
      (∃ t, Recorded [forkCondition, bugCondition] t ∧ turned.snapshot = t.snapshot) ∧
      (turned.snapshot.conditions.map ConditionCount.count).sum = 2 := by
  have hturned : Recorded [bugCondition, forkCondition] turned :=
    .reorder (.record forkCondition (.record bugCondition .nil)) ⟨.swap _ _ _, .refl _⟩
  have hother := Recorded.nil.record forkCondition |>.record bugCondition
  obtain ⟨-, -, -, -, hperm, hsum, -⟩ := snapshot_of_recorded hturned
  exact ⟨hturned, ⟨_, hother, hperm _ _ (.swap _ _ _) hother⟩, hsum⟩

end Stats

end NodeWatch
