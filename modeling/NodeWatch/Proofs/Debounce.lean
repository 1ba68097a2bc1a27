import Mathlib.Data.List.Induction
import Mathlib.Tactic.Common
import NodeWatch.Proofs.Gate

/-!
# How often a condition must be seen

A gate keeps one counter for each reason, whatever the conditions of that reason ask for. The
counter is the number of sightings since a condition of the reason last passed, so it can be read off
the verdicts so far. The main statement is `Gate.verdicts_eq_seen_often`.

A counter that is kept is below what some condition asked for. So it is below the largest number of
64 bits, and counting one more sighting does not overflow.
-/

namespace NodeWatch.Gate

/-- Conditions, oldest first, each with whether it passes. -/
def history (g : Gate) (cs : List Condition) : List (Condition × Bool) :=
  cs.zip (g.verdicts cs)

/-- How many conditions of a reason came after the last one of it that passed. -/
def sinceLastPass (reason : String) (past : List (Condition × Bool)) : Nat :=
  ((past.reverse.filter fun p => p.1.reason = reason).takeWhile fun p => !p.2).length

@[simp] lemma history_nil (g : Gate) : g.history [] = [] := rfl

lemma history_cons (g : Gate) (c : Condition) (cs : List Condition) :
    g.history (c :: cs) = (c, (g.pass c).1) :: (g.pass c).2.history cs := rfl

lemma history_append (g : Gate) (cs cs' : List Condition) :
    g.history (cs ++ cs') = g.history cs ++ (g.passAll cs).history cs' := by
  rw [history, verdicts_append, List.zip_append (by simp)]
  rfl

@[simp] lemma length_history (g : Gate) (cs : List Condition) :
    (g.history cs).length = cs.length := by
  simp [history]

lemma sinceLastPass_concat (reason : String) (past : List (Condition × Bool)) (c : Condition)
    (passed : Bool) :
    sinceLastPass reason (past ++ [(c, passed)]) =
      if c.reason = reason then if passed then 0 else sinceLastPass reason past + 1
      else sinceLastPass reason past := by
  rw [sinceLastPass, List.reverse_append, List.reverse_singleton, List.singleton_append]
  by_cases hreason : c.reason = reason
  · cases passed <;> simp [hreason, sinceLastPass]
  · simp [hreason, sinceLastPass]

/-- Nothing before a condition that passed is counted. -/
lemma sinceLastPass_le_countP {reason : String} {c : Condition} (hc : c.reason = reason)
    (before between : List (Condition × Bool)) :
    sinceLastPass reason (before ++ (c, true) :: between) ≤
      between.countP fun p => p.1.reason = reason := by
  induction between using List.reverseRecOn with
  | nil => simp [sinceLastPass_concat, hc]
  | append_singleton between p ih =>
    obtain ⟨d, passed⟩ := p
    rw [← List.cons_append, ← List.append_assoc, sinceLastPass_concat, List.countP_append]
    split_ifs with hd hpassed
    · exact Nat.zero_le _
    · simpa [hd] using ih
    · exact Nat.le_add_right_of_le ih

/-- The counters of a gate are those of the past, and one more sighting can be counted. -/
structure Tracks (g : Gate) (past : List (Condition × Bool)) : Prop where
  count_eq : ∀ reason, (g.count reason).toInt = sinceLastPass reason past
  count_lt : ∀ reason, (g.count reason).toInt < Int64.maxValue.toInt

lemma Tracks.empty : Tracks {} [] where
  count_eq _ := rfl
  count_lt _ := show (0 : Int64).toInt < Int64.maxValue.toInt by decide

lemma Tracks.toInt_add_one {g : Gate} {past : List (Condition × Bool)} (ht : g.Tracks past)
    (reason : String) : (g.count reason + 1).toInt = sinceLastPass reason past + 1 := by
  have hcount := ht.count_eq reason
  have hbound := ht.count_lt reason
  rw [Int64.toInt_maxValue] at hbound
  rw [Int64.toInt_add, Int64.toInt_one, hcount]
  apply Int.bmod_eq_of_le <;> omega

/-- A condition passes if there were as many sightings of its reason as it asks for. -/
lemma Tracks.pass_iff {g : Gate} {past : List (Condition × Bool)} (ht : g.Tracks past)
    (c : Condition) :
    (g.pass c).1 = true ↔ c.minOccurrences.toInt ≤ sinceLastPass c.reason past + 1 := by
  rw [← ht.toInt_add_one, ← Int.not_lt, ← Int64.lt_iff_toInt_lt, pass]
  split_ifs with hlt <;> simp [hlt]

lemma count_pass (g : Gate) (c : Condition) (reason : String) :
    (g.pass c).2.count reason =
      if c.reason = reason then if (g.pass c).1 then 0 else g.count reason + 1
      else g.count reason := by
  rcases eq_or_ne c.reason reason with rfl | hne
  · rw [if_pos rfl, pass]
    by_cases hless : g.count c.reason + 1 < c.minOccurrences <;> simp [hless]
  · rw [if_neg hne, pass]
    split_ifs <;> exact count_setCount_of_ne g hne.symm _

lemma Tracks.pass {g : Gate} {past : List (Condition × Bool)} (ht : g.Tracks past)
    (c : Condition) : (g.pass c).2.Tracks (past ++ [(c, (g.pass c).1)]) := by
  constructor
  · intro reason
    rw [count_pass, sinceLastPass_concat]
    split_ifs with hreason hpass
    · rfl
    · rw [ht.toInt_add_one, Int.natCast_succ]
    · exact ht.count_eq reason
  · intro reason
    rw [count_pass]
    split_ifs with hreason hpass
    · decide
    · -- what is kept is less than what this condition asks for
      have hless : (g.count reason + 1).toInt < c.minOccurrences.toInt := by
        rw [ht.toInt_add_one, ← hreason]
        exact Int.not_le.mp fun hle => hpass ((ht.pass_iff c).mpr hle)
      exact Int.lt_of_lt_of_le hless (Int64.toInt_le _)
    · exact ht.count_lt reason

lemma tracks_passAll (cs : List Condition) :
    (({} : Gate).passAll cs).Tracks (({} : Gate).history cs) := by
  induction cs using List.reverseRecOn with
  | nil => exact .empty
  | append_singleton cs c ih =>
    rw [passAll_append, history_append]
    exact ih.pass c

/-- What is said of a condition, whatever comes after it. -/
lemma passed_iff_of_history_eq {cs : List Condition} {past after : List (Condition × Bool)}
    {c : Condition} {passed : Bool} (h : ({} : Gate).history cs = past ++ (c, passed) :: after) :
    passed = true ↔ c.minOccurrences.toInt ≤ sinceLastPass c.reason past + 1 := by
  have hlength : past.length ≤ cs.length := by
    rw [← length_history {} cs, h, List.length_append]
    exact Nat.le_add_right _ _
  have hsplit := history_append {} (cs.take past.length) (cs.drop past.length)
  rw [List.take_append_drop, h] at hsplit
  obtain ⟨hpast, hrest⟩ := List.append_inj hsplit (by simp [hlength])
  rcases hdrop : cs.drop past.length with _ | ⟨d, rest⟩
  · rw [hdrop] at hrest
    cases hrest
  · rw [hdrop, history_cons] at hrest
    cases hrest
    have htracks := tracks_passAll (cs.take past.length)
    rw [← hpast] at htracks
    exact htracks.pass_iff c

/-- The verdicts on one reason come from its own counter and its own conditions. -/
lemma filter_history {g g' : Gate} {reason : String} (hcount : g.count reason = g'.count reason)
    (cs : List Condition) :
    (g.history cs).filter (fun p => p.1.reason = reason) =
      g'.history (cs.filter fun c => c.reason = reason) := by
  induction cs generalizing g g' with
  | nil => rfl
  | cons c cs ih =>
    by_cases hreason : c.reason = reason
    · have hpass : (g.pass c).1 = (g'.pass c).1 := by
        subst hreason
        simp only [pass, hcount]
        split_ifs <;> rfl
      have hnext : (g.pass c).2.count reason = (g'.pass c).2.count reason := by
        rw [count_pass, count_pass, hpass, hcount]
      simp [history_cons, hreason, hpass, ih hnext]
    · have hnext : (g.pass c).2.count reason = g'.count reason := by
        rw [count_pass, if_neg hreason, hcount]
      simp [history_cons, hreason, ih hnext]

/-- Counting modulo `m`, the remainder falls to zero at the numbers that `m` divides. -/
lemma dvd_succ_iff_le_mod {m : Nat} (hm : 1 ≤ m) (n : Nat) : m ∣ n + 1 ↔ m ≤ n % m + 1 := by
  have hlt : n % m < m := Nat.mod_lt n hm
  rw [Nat.dvd_iff_mod_eq_zero, ← Nat.mod_add_mod]
  constructor
  · intro hzero
    by_contra hle
    rw [Nat.mod_eq_of_lt (Nat.not_le.mp hle)] at hzero
    exact Nat.succ_ne_zero _ hzero
  · intro hle
    rw [show n % m + 1 = m from Nat.le_antisymm hlt hle, Nat.mod_self]

/-- With the same minimum `m` every time, each `m`-th sighting passes. -/
lemma verdicts_of_constant {reason : String} {m : Nat} (hm : 1 ≤ m) (cs : List Condition)
    (hcs : ∀ c ∈ cs, c.reason = reason ∧ c.minOccurrences.toInt = m) :
    sinceLastPass reason (({} : Gate).history cs) = cs.length % m ∧
      ({} : Gate).verdicts cs = (List.range cs.length).map fun i => decide (m ∣ i + 1) := by
  induction cs using List.reverseRecOn with
  | nil => simp [sinceLastPass, verdicts]
  | append_singleton cs c ih =>
    obtain ⟨hsince, hverdicts⟩ := ih fun d hd => hcs d (List.mem_append_left _ hd)
    obtain ⟨hreason, hmin⟩ := hcs c (by simp)
    have hpass : ((({} : Gate).passAll cs).pass c).1 = decide (m ∣ cs.length + 1) := by
      rw [Bool.eq_iff_iff, (tracks_passAll cs).pass_iff, hreason, hsince, hmin, decide_eq_true_iff,
        dvd_succ_iff_le_mod hm]
      omega
    constructor
    · rw [history_append, history_cons, history_nil, sinceLastPass_concat, if_pos hreason, hpass,
        hsince, List.length_append, List.length_singleton]
      by_cases hdvd : m ∣ cs.length + 1
      · simp [hdvd, Nat.mod_eq_zero_of_dvd hdvd]
      · have hlt : cs.length % m + 1 < m :=
          Nat.not_le.mp fun hle => hdvd ((dvd_succ_iff_le_mod hm _).mpr hle)
        rw [decide_eq_false hdvd, ← Nat.mod_add_mod, Nat.mod_eq_of_lt hlt]
        rfl
    · rw [verdicts_append, hverdicts, List.length_append, List.length_singleton, List.range_succ,
        List.map_append]
      simp [verdicts, hpass]

/-- The numbers up to `n` that `m` divides. -/
lemma count_true_map_dvd (m n : Nat) :
    ((List.range n).map fun i => decide (m ∣ i + 1)).count true = n / m := by
  induction n with
  | zero => simp
  | succ n ih =>
    rw [List.range_succ, List.map_append, List.count_append, ih, Nat.succ_div]
    by_cases hdvd : m ∣ n + 1 <;> simp [hdvd]

/-- Of any conditions, whatever their reasons and minima:

* the `i`-th passes if the conditions of its reason since the last one of them that passed, itself
  included, are at least as many as it asks for;
* the verdicts on one reason are those of a gate that gets the conditions of that reason only;
* where two conditions of a reason pass, the conditions of that reason after the first, up to and
  including the second, are at least as many as the second asks for;
* if all are of one reason and ask for the same number `m ≥ 1`, then the `m`-th, the `2m`-th, the
  `3m`-th and so on pass, and no others. -/
theorem verdicts_eq_seen_often (cs : List Condition) :
    (∀ i (hi : i < cs.length), (({} : Gate).verdicts cs)[i]? = some (decide
      (cs[i].minOccurrences.toInt ≤
        sinceLastPass cs[i].reason ((({} : Gate).history cs).take i) + 1))) ∧
    (∀ reason, (({} : Gate).history cs).filter (fun p => p.1.reason = reason) =
      ({} : Gate).history (cs.filter fun c => c.reason = reason)) ∧
    (∀ (before between after : List (Condition × Bool)) (c d : Condition),
      ({} : Gate).history cs = before ++ (c, true) :: (between ++ (d, true) :: after) →
      c.reason = d.reason → d.minOccurrences.toInt ≤
        between.countP (fun p => p.1.reason = d.reason) + 1) ∧
    ∀ reason (m : Nat), 1 ≤ m → (∀ c ∈ cs, c.reason = reason ∧ c.minOccurrences.toInt = m) →
      ({} : Gate).verdicts cs = (List.range cs.length).map (fun i => decide (m ∣ i + 1)) ∧
      (({} : Gate).verdicts cs).count true = cs.length / m := by
  refine ⟨?_, fun reason => filter_history rfl cs, ?_, ?_⟩
  · intro i hi
    have hverdict : i < (({} : Gate).verdicts cs).length := by simpa using hi
    have hmem : i < (({} : Gate).history cs).length := by simpa using hi
    have hsplit := (List.take_append_drop i (({} : Gate).history cs)).symm
    rw [List.drop_eq_getElem_cons hmem] at hsplit
    have hentry : (({} : Gate).history cs)[i] = (cs[i], (({} : Gate).verdicts cs)[i]) := by
      simp [history]
    rw [hentry] at hsplit
    rw [List.getElem?_eq_getElem hverdict]
    exact congrArg some (Bool.eq_iff_iff.mpr
      ((passed_iff_of_history_eq hsplit).trans decide_eq_true_iff.symm))
  · intro before between after c d hhistory hreason
    rw [← List.cons_append, ← List.append_assoc] at hhistory
    have hseen := (passed_iff_of_history_eq hhistory).mp rfl
    have hcount := sinceLastPass_le_countP hreason before between
    omega
  · intro reason m hm hcs
    have hverdicts := (verdicts_of_constant hm cs hcs).2
    refine ⟨hverdicts, ?_⟩
    rw [hverdicts]
    exact count_true_map_dvd m cs.length

end NodeWatch.Gate
