import NodeWatch.Proofs.Debounce

/-!
# Counters that do not overflow

A gate adds one to a counter of 64 bits and never looks whether that is still a number of 64 bits.
`Unbounded` is the same gate with integers for its counters. As there is always room for one more
sighting in a counter that is kept, one gate says what the other says, and their counters are the
same numbers. The main statement is `verdicts_eq_unbounded`.
-/

namespace NodeWatch

namespace Table

variable {κ ν μ : Type}

/-- The same keys, each with what `f` makes of its value. -/
def mapValues (f : ν → μ) (t : Table κ ν) : Table κ μ where
  entries := t.entries.map (Prod.map id f)
  distinct := by
    rw [List.map_map]
    exact t.distinct

variable [BEq κ]

lemma get?_mapValues (f : ν → μ) (t : Table κ ν) (k : κ) :
    (t.mapValues f).get? k = (t.get? k).map f := by
  simp only [get?, mapValues]
  induction t.entries with
  | nil => rfl
  | cons entry entries ih =>
    rw [List.map_cons, List.lookup_cons, List.lookup_cons, Prod.map_fst, Prod.map_snd, id, ih]
    cases k == entry.1 <;> rfl

lemma mapValues_set [LawfulBEq κ] (f : ν → μ) (t : Table κ ν) (k : κ) (v : ν) :
    (t.set k v).mapValues f = (t.mapValues f).set k (f v) := by
  simp only [set, erase, mapValues, List.map_cons, List.filter_map, Prod.map_apply, id]
  rfl

end Table

namespace Gate

/-- A gate whose counters have no largest number. -/
structure Unbounded where
  seen : Table String Int := {}

namespace Unbounded

def count (g : Unbounded) (reason : String) : Int :=
  (g.seen.get? reason).getD 0

def setCount (g : Unbounded) (reason : String) (n : Int) : Unbounded :=
  { seen := g.seen.set reason n }

/-- Counts a sighting and tells whether the condition passes. -/
def pass (g : Unbounded) (c : Condition) : Bool × Unbounded :=
  let n := g.count c.reason + 1
  if n < c.minOccurrences.toInt then (false, g.setCount c.reason n)
  else (true, g.setCount c.reason 0)

/-- The gate after conditions in a row. -/
def passAll (g : Unbounded) (cs : List Condition) : Unbounded :=
  cs.foldl (fun g c => (g.pass c).2) g

/-- Which of the conditions pass. -/
def verdicts (g : Unbounded) : List Condition → List Bool
  | [] => []
  | c :: cs => (g.pass c).1 :: (g.pass c).2.verdicts cs

end Unbounded

/-- The counters of a gate as integers. -/
def unbounded (g : Gate) : Unbounded :=
  { seen := g.seen.mapValues Int64.toInt }

lemma count_unbounded (g : Gate) (reason : String) :
    g.unbounded.count reason = (g.count reason).toInt := by
  rw [Unbounded.count, unbounded, Table.get?_mapValues, count]
  rcases g.seen.get? reason with _ | n <;> rfl

lemma unbounded_setCount (g : Gate) (reason : String) (n : Int64) :
    (g.setCount reason n).unbounded = g.unbounded.setCount reason n.toInt := by
  rw [unbounded, setCount, Table.mapValues_set]
  rfl

/-- Where one more sighting can be counted, the gates do the same. -/
lemma pass_unbounded {g : Gate} {c : Condition}
    (h : (g.count c.reason + 1).toInt = (g.count c.reason).toInt + 1) :
    g.unbounded.pass c = ((g.pass c).1, (g.pass c).2.unbounded) := by
  rw [Unbounded.pass, count_unbounded, ← h, pass]
  by_cases hless : g.count c.reason + 1 < c.minOccurrences
  · rw [if_pos (Int64.lt_iff_toInt_lt.mp hless), if_pos hless, unbounded_setCount]
  · rw [if_neg (mt Int64.lt_iff_toInt_lt.mpr hless), if_neg hless, unbounded_setCount]
    rfl

section

variable {g : Gate} {past : List (Condition × Bool)} (ht : g.Tracks past)
include ht

lemma Tracks.count_nonneg (reason : String) : 0 ≤ (g.count reason).toInt := by
  rw [ht.count_eq]
  exact Int.natCast_nonneg _

lemma Tracks.toInt_count_add_one (reason : String) :
    (g.count reason + 1).toInt = (g.count reason).toInt + 1 := by
  rw [ht.toInt_add_one, ht.count_eq]

/-- The two gates stay together. -/
lemma Tracks.run_unbounded (cs : List Condition) :
    g.unbounded.passAll cs = (g.passAll cs).unbounded ∧
      g.unbounded.verdicts cs = g.verdicts cs := by
  induction cs generalizing g past with
  | nil => exact ⟨rfl, rfl⟩
  | cons c cs ih =>
    -- a counter that is kept is below the minimum of the condition that was held back last
    have hpass := pass_unbounded (ht.toInt_count_add_one c.reason)
    obtain ⟨hcounters, hverdicts⟩ := ih (ht.pass c)
    constructor
    · rw [Unbounded.passAll, List.foldl_cons, hpass]
      exact hcounters
    · rw [Unbounded.verdicts, hpass, hverdicts, verdicts]

end

/-- A condition that asks for the largest number leaves room for exactly one sighting. -/
theorem exists_count_eq_largest (c : Condition) (hc : c.minOccurrences = Int64.maxValue) :
    ∃ n, ((({} : Gate).passAll (List.replicate n c)).count c.reason).toInt =
      Int64.maxValue.toInt - 1 := by
  refine ⟨2 ^ 63 - 2, ?_⟩
  have hconstant : ∀ d ∈ List.replicate (2 ^ 63 - 2) c,
      d.reason = c.reason ∧ d.minOccurrences.toInt = (2 ^ 63 - 1 : ℕ) := by
    intro d hd
    rw [List.eq_of_mem_replicate hd, hc]
    exact ⟨rfl, by decide⟩
  rw [(tracks_passAll _).count_eq, (verdicts_of_constant (by decide) _ hconstant).1,
    List.length_replicate]
  decide

/-- After any conditions, whatever their reasons and minima:

* every counter that is kept is at least zero and at most one below the largest number of 64 bits;
* adding one to a counter in 64 bits adds one;
* the counters are those of the gate that counts in integers;
* so are the verdicts. -/
theorem verdicts_eq_unbounded (cs : List Condition) :
    (∀ n ∈ (({} : Gate).passAll cs).seen.values,
      0 ≤ n.toInt ∧ n.toInt ≤ Int64.maxValue.toInt - 1) ∧
    (∀ reason, ((({} : Gate).passAll cs).count reason + 1).toInt =
      ((({} : Gate).passAll cs).count reason).toInt + 1) ∧
    (∀ reason, ((({} : Gate).passAll cs).count reason).toInt =
      (({} : Unbounded).passAll cs).count reason) ∧
    ({} : Gate).verdicts cs = ({} : Unbounded).verdicts cs := by
  have htracks := tracks_passAll cs
  obtain ⟨hcounters, hverdicts⟩ := Tracks.empty.run_unbounded cs
  refine ⟨fun n hn => ?_, htracks.toInt_count_add_one, fun reason => ?_, hverdicts.symm⟩
  · obtain ⟨reason, hreason⟩ := (Table.mem_values _).mp hn
    have hcount : (({} : Gate).passAll cs).count reason = n := by
      rw [count, hreason, Option.getD_some]
    have hnonneg := htracks.count_nonneg reason
    have hlt := htracks.count_lt reason
    rw [hcount] at hnonneg hlt
    exact ⟨hnonneg, Int.le_sub_one_of_lt hlt⟩
  · rw [← count_unbounded, ← hcounters]
    rfl

end Gate

end NodeWatch
