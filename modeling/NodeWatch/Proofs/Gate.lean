import Mathlib.Tactic.Common
import NodeWatch.Gate

/-!
# The gate by itself

What a gate says of conditions that come in a row depends on nothing but the conditions.
-/

namespace NodeWatch.Gate

/-- The gate after conditions in a row. -/
def passAll (g : Gate) (cs : List Condition) : Gate :=
  cs.foldl (fun g c => (g.pass c).2) g

/-- Which of the conditions pass. -/
def verdicts (g : Gate) : List Condition → List Bool
  | [] => []
  | c :: cs => (g.pass c).1 :: (g.pass c).2.verdicts cs

lemma passAll_append (g : Gate) (cs cs' : List Condition) :
    g.passAll (cs ++ cs') = (g.passAll cs).passAll cs' := by
  simp only [passAll, List.foldl_append]

@[simp] lemma length_verdicts (g : Gate) (cs : List Condition) :
    (g.verdicts cs).length = cs.length := by
  induction cs generalizing g with
  | nil => rfl
  | cons c cs ih => simp [verdicts, ih]

lemma verdicts_append (g : Gate) (cs cs' : List Condition) :
    g.verdicts (cs ++ cs') = g.verdicts cs ++ (g.passAll cs).verdicts cs' := by
  induction cs generalizing g with
  | nil => rfl
  | cons c cs ih => simp only [List.cons_append, verdicts, ih, passAll, List.foldl_cons]

end NodeWatch.Gate
