import NodeWatch.Condition
import NodeWatch.Table

/-!
# The gate for repeated conditions

A condition passes once its reason has been seen as often as the condition asks for. Then counting
starts again from zero.
-/

namespace NodeWatch

structure Gate where
  /-- How often each reason was seen since a condition of it last passed. -/
  seen : Table String Int64 := {}

namespace Gate

def count (g : Gate) (reason : String) : Int64 :=
  (g.seen.get? reason).getD 0

def setCount (g : Gate) (reason : String) (n : Int64) : Gate :=
  { seen := g.seen.set reason n }

@[simp] theorem count_setCount_self (g : Gate) (reason : String) (n : Int64) :
    (g.setCount reason n).count reason = n := by
  simp [setCount, count]

theorem count_setCount_of_ne (g : Gate) {r s : String} (h : r ≠ s) (n : Int64) :
    (g.setCount s n).count r = g.count r := by
  simp [setCount, count, Table.get?_set_of_ne _ h]

/-- Counts a sighting and tells whether the condition passes. -/
def pass (g : Gate) (c : Condition) : Bool × Gate :=
  let n := g.count c.reason + 1
  if n < c.minOccurrences then (false, g.setCount c.reason n) else (true, g.setCount c.reason 0)

end Gate

end NodeWatch
