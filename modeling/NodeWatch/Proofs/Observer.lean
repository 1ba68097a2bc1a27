import Mathlib.Tactic.Common
import NodeWatch.Observer

/-!
# What fanning out changes

Lines that are fanned out change the broadcaster of an observer and what has arrived, and nothing
else.
-/

namespace NodeWatch.Observer

lemma fanOut_eq (o : Observer) (lines : List String) : (o.fanOut lines).1 =
    { o with broadcaster := lines.foldl (fun b line => (b.send line).2) o.broadcaster } := by
  induction lines generalizing o with
  | nil => rfl
  | cons line lines ih => exact ih _

lemma deliver_eq (o : Observer) : o.deliver.1 =
    { o with
      arrived := o.arrived.tail
      broadcaster :=
        (o.arrived.headD []).foldl (fun b line => (b.send line).2) o.broadcaster } := by
  rcases o with ⟨_, _, _, _, _, _, _ | ⟨lines, arrived⟩⟩
  · rfl
  · exact fanOut_eq _ _

end NodeWatch.Observer
