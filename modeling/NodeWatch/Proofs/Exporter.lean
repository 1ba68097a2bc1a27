import NodeWatch.Exporter
import NodeWatch.Proofs.Encoding
import NodeWatch.Proofs.Gate
import NodeWatch.Proofs.Stats

/-!
# What is exported

The gate decides which notifications are exported, and nothing else does: records and statistics are
those of the notifications that pass a gate by itself. The main statement is
`Exporter.takeAll_eq_admitted`.
-/

namespace NodeWatch

/-- The notifications that pass a gate. -/
def Gate.admitted (g : Gate) (ns : List Notification) : List Notification :=
  ((ns.zip (g.verdicts (ns.map Notification.condition))).filter Prod.snd).map Prod.fst

lemma Gate.admitted_cons (g : Gate) (n : Notification) (ns : List Notification) :
    g.admitted (n :: ns) =
      (if (g.pass n.condition).1 then [n] else []) ++ (g.pass n.condition).2.admitted ns := by
  rcases hpass : g.pass n.condition with ⟨_ | _, g'⟩ <;> simp [admitted, verdicts, hpass]

lemma Gate.admitted_append (g : Gate) (ns ns' : List Notification) :
    g.admitted (ns ++ ns') =
      g.admitted ns ++ (g.passAll (ns.map Notification.condition)).admitted ns' := by
  have hlength : ns.length = (g.verdicts (ns.map Notification.condition)).length := by simp
  rw [admitted, List.map_append, verdicts_append, List.zip_append hlength, List.filter_append,
    List.map_append]
  rfl

namespace Exporter

/-- Exporting is recording what the gate lets pass. -/
lemma takeAll_eq (e : Exporter) (ns : List Notification) :
    e.takeAll ns = ((e.gate.admitted ns).map Notification.record, {
      gate := e.gate.passAll (ns.map Notification.condition)
      stats := e.stats.recordAll ((e.gate.admitted ns).map Notification.condition) }) := by
  induction ns generalizing e with
  | nil => rfl
  | cons n ns ih =>
    rw [Gate.admitted_cons, takeAll]
    rcases hpass : e.gate.pass n.condition with ⟨_ | _, gate⟩
    · simp [take, hpass, ih, Gate.passAll]
    · simp [take, hpass, ih, Gate.passAll, Stats.recordAll]

/-- It makes no difference in which batches notifications come. -/
lemma takeAll_append (e : Exporter) (ns ns' : List Notification) :
    e.takeAll (ns ++ ns') = ((e.takeAll ns).1 ++ ((e.takeAll ns).2.takeAll ns').1,
      ((e.takeAll ns).2.takeAll ns').2) := by
  simp only [takeAll_eq, Gate.admitted_append, List.map_append, Gate.passAll_append,
    Stats.recordAll, List.foldl_append]

/-- For all notifications there may be, with `admitted` for those that pass a gate by itself:

* the records are those of `admitted`, in order, each at the level of its severity, and the name of
  its monitor and the whole condition are read back from it;
* every count is the number of `admitted` with that severity and reason; the snapshot has the counts
  that are not zero, and they add up to the number of records;
* the fatal reasons are the reasons of the fatal ones among `admitted`;
* one more notification is recorded and counted if it passes, and otherwise changes neither. -/
theorem takeAll_eq_admitted (ns : List Notification) :
    let admitted := ({} : Gate).admitted ns
    let (records, e) := ({} : Exporter).takeAll ns
    records = admitted.map (fun n => ⟨match n.condition.severity with
      | .info => .info
      | .warning => .warn
      | .fatal => .error, n.condition.recordJson n.monitor⟩) ∧
    List.Forall₂ (fun n record => Notification.readMonitor record.text = .ok n.monitor ∧
      Condition.ofJson record.text = .ok n.condition) admitted records ∧
    (∀ severity reason, e.stats.count severity reason = admitted.countP fun n =>
      n.condition.severity = severity ∧ n.condition.reason = reason) ∧
    (∀ row, row ∈ e.stats.snapshot.conditions ↔
      0 < row.count ∧ row.count = e.stats.count row.severity row.reason) ∧
    (e.stats.snapshot.conditions.map ConditionCount.count).sum = records.length ∧
    (∀ reason, reason ∈ e.stats.snapshot.fatalReasons ↔
      ∃ n ∈ admitted, n.condition.severity = .fatal ∧ n.condition.reason = reason) ∧
    ∀ n, ({} : Exporter).takeAll (ns ++ [n]) = (
      if (e.gate.pass n.condition).1 then
        (records ++ [n.record], ⟨(e.gate.pass n.condition).2, e.stats.record n.condition⟩)
      else (records, ⟨(e.gate.pass n.condition).2, e.stats⟩)) := by
  intro admitted
  have hcount := ({} : Stats).count_recordAll (admitted.map Notification.condition)
  have hfatal := ({} : Stats).mem_fatalReasons_recordAll (admitted.map Notification.condition)
  simp only [takeAll_eq]
  refine ⟨?_, ?_, ?_, ?_, ?_, ?_, ?_⟩
  · refine List.map_congr_left fun n _ => ?_
    rw [Notification.record]
    cases n.condition.severity <;> rfl
  · refine List.forall₂_map_right_iff.mpr (List.forall₂_same.mpr fun n _ => ?_)
    exact ⟨n.readMonitor_record, n.condition.ofJson_recordJson n.monitor⟩
  · intro severity reason
    rw [hcount, List.countP_map]
    exact Nat.zero_add _
  · exact Stats.mem_conditions_snapshot_iff_count (Stats.pos_recordAll (by simp [Table.values]) _)
  · rw [Stats.sum_conditions_snapshot, Stats.total_recordAll, List.length_map, List.length_map]
    exact Nat.zero_add _
  · intro reason
    rw [Stats.mem_fatalReasons_snapshot, hfatal]
    simp [admitted]
  · intro n
    simp only [Gate.admitted_append, Gate.admitted_cons, Gate.passAll_append, List.map_append]
    generalize hgate : ({} : Gate).passAll (ns.map Notification.condition) = gate
    rcases hpass : gate.pass n.condition with ⟨_ | _, gate'⟩ <;>
      simp [hpass, Gate.passAll, Gate.admitted, Stats.recordAll]

end Exporter

end NodeWatch
