import Mathlib.Tactic.Common
import NodeWatch.Worker

/-!
# Runs of a worker

What a worker does with items in two parts: the second part is handled from the state that the first
one leaves.
-/

namespace NodeWatch.Worker

variable {σ ι ω : Type} (w : Worker σ ι ω)

lemma runAll_append (state : σ) (items more : List ι) :
    w.runAll state (items ++ more) =
      ((w.runAll (w.runAll state items).1 more).1,
        (w.runAll state items).2.1 ++ (w.runAll (w.runAll state items).1 more).2.1,
        (w.runAll state items).2.2 ++ (w.runAll (w.runAll state items).1 more).2.2) := by
  induction items generalizing state with
  | nil => rfl
  | cons item items ih => simp only [List.cons_append, runAll, ih, List.append_assoc]

/-- A worker that gives one value for each item gives the values of some items in their order. -/
lemma length_values (hone : ∀ state item, (w.handle state item).2.1.length = 1) (state : σ)
    (items : List ι) : (w.runAll state items).2.1.length = items.length := by
  induction items generalizing state with
  | nil => rfl
  | cons item items ih =>
    rw [runAll, List.length_append, ih, List.length_cons, step, hone, Nat.add_comm]

/-- What comes of an item after others. -/
lemma getElem?_values (hone : ∀ state item, (w.handle state item).2.1.length = 1) (state : σ)
    (earlier later : List ι) (item : ι) :
    (w.runAll state (earlier ++ item :: later)).2.1[earlier.length]? =
      (w.handle (w.runAll state earlier).1 item).2.1[0]? := by
  have hlength := w.length_values hone state earlier
  rw [runAll_append, List.getElem?_append_right (by omega), hlength, Nat.sub_self, runAll,
    List.getElem?_append_left (by rw [step, hone]; decide)]
  rfl

end NodeWatch.Worker
