import Mathlib.Tactic.Common
import NodeWatch.Broadcaster

/-!
# Those who listen

Of a broadcaster only the live subscribers count: one that has gone gets nothing and makes no
difference to what the others get. The list of live subscribers is what every operation is described
by here.
-/

namespace NodeWatch.Broadcaster

/-- The subscribers that have not gone, in the order in which they came. -/
def live (b : Broadcaster) : List Subscriber :=
  b.subscribers.filter Subscriber.isAlive

/-- The streams of the live subscribers. -/
def listeners (b : Broadcaster) : List StreamId :=
  b.live.map Subscriber.stream

lemma mem_listeners {b : Broadcaster} {stream : StreamId} :
    stream ∈ b.listeners ↔ ∃ s ∈ b.subscribers, s.stream = stream ∧ s.isAlive = true := by
  simp only [listeners, live, List.mem_map, List.mem_filter]
  constructor
  · rintro ⟨s, ⟨hs, halive⟩, rfl⟩
    exact ⟨s, hs, rfl, halive⟩
  · rintro ⟨s, hs, rfl, halive⟩
    exact ⟨s, ⟨hs, halive⟩, rfl⟩

@[simp] lemma live_empty : ({} : Broadcaster).live = [] := rfl

@[simp] lemma listeners_empty : ({} : Broadcaster).listeners = [] := rfl

@[simp] lemma live_subscribe (b : Broadcaster) (stream : StreamId) (capacity : Nat) :
    (b.subscribe stream capacity).live = b.live ++ [⟨stream, capacity, [], true⟩] := by
  simp [live, subscribe]

@[simp] lemma live_prune (b : Broadcaster) : b.prune.live = b.live := by
  simp [live, prune]

@[simp] lemma prune_prune (b : Broadcaster) : b.prune.prune = b.prune :=
  congrArg mk b.live_prune

lemma isIdle_eq_isEmpty_live (b : Broadcaster) : b.isIdle = b.live.isEmpty := rfl

lemma isIdle_eq_decide (b : Broadcaster) : b.isIdle = decide (b.live = []) := by
  rw [isIdle_eq_isEmpty_live]
  cases b.live <;> rfl

lemma isIdle_iff_listeners (b : Broadcaster) : b.isIdle = true ↔ b.listeners = [] := by
  rw [isIdle_eq_isEmpty_live, List.isEmpty_iff, listeners, List.map_eq_nil_iff]

lemma isAlive_offer (s : Subscriber) (line : String) : (s.offer line).isAlive = s.isAlive := by
  unfold Subscriber.offer
  split_ifs <;> rfl

lemma stream_offer (s : Subscriber) (line : String) : (s.offer line).stream = s.stream := by
  unfold Subscriber.offer
  split_ifs <;> rfl

@[simp] lemma live_send (b : Broadcaster) (line : String) :
    (b.send line).2.live = b.live.map fun s => s.offer line := by
  simp only [live, send, prune, List.filter_map, Function.comp_def, isAlive_offer]
  simp

/-- A change of one subscriber that neither ends nor revives it. -/
lemma live_modify {f : Subscriber → Subscriber} (hf : ∀ s, (f s).isAlive = s.isAlive)
    (b : Broadcaster) (stream : StreamId) :
    (b.modify stream f).live = b.live.map fun s => if s.stream = stream then f s else s := by
  have hkeep : ∀ s : Subscriber, (if s.stream = stream then f s else s).isAlive = s.isAlive := by
    intro s
    split_ifs
    · exact hf s
    · rfl
  simp only [live, modify, List.filter_map, Function.comp_def, hkeep]

@[simp] lemma live_leave (b : Broadcaster) (stream : StreamId) :
    (b.leave stream).live = b.live.filter fun s => s.stream ≠ stream := by
  simp only [live, leave, modify]
  induction b.subscribers with
  | nil => rfl
  | cons s subscribers ih =>
    by_cases hs : s.stream = stream <;> by_cases halive : s.isAlive = true <;> simp [hs, halive, ih]

lemma live_foldl_leave (b : Broadcaster) (streams : List StreamId) :
    (streams.foldl leave b).live = b.live.filter fun s => s.stream ∉ streams := by
  induction streams generalizing b with
  | nil => exact (List.filter_eq_self.mpr fun s _ => by simp).symm
  | cons stream streams ih =>
    rw [List.foldl_cons, ih, live_leave, List.filter_filter]
    refine List.filter_congr fun s _ => ?_
    simp [Bool.and_comm]

@[simp] lemma listeners_subscribe (b : Broadcaster) (stream : StreamId) (capacity : Nat) :
    (b.subscribe stream capacity).listeners = b.listeners ++ [stream] := by
  simp [listeners]

@[simp] lemma listeners_prune (b : Broadcaster) : b.prune.listeners = b.listeners := by
  simp [listeners]

@[simp] lemma listeners_send (b : Broadcaster) (line : String) :
    (b.send line).2.listeners = b.listeners := by
  simp [listeners, Function.comp_def, stream_offer]

lemma listeners_modify {f : Subscriber → Subscriber} (halive : ∀ s, (f s).isAlive = s.isAlive)
    (hstream : ∀ s, (f s).stream = s.stream) (b : Broadcaster) (stream : StreamId) :
    (b.modify stream f).listeners = b.listeners := by
  rw [listeners, live_modify halive, List.map_map]
  refine List.map_congr_left fun s _ => ?_
  simp only [Function.comp_apply]
  split_ifs
  · exact hstream s
  · rfl

@[simp] lemma listeners_take (b : Broadcaster) (stream : StreamId) :
    (b.take stream).2.listeners = b.listeners := by
  rw [take]
  exact listeners_modify (by simp) (by simp) b stream

@[simp] lemma listeners_takeOne (b : Broadcaster) (stream : StreamId) :
    (b.takeOne stream).2.listeners = b.listeners := by
  rw [takeOne]
  exact listeners_modify (by simp) (by simp) b stream

lemma listeners_foldl_leave (b : Broadcaster) (streams : List StreamId) :
    (streams.foldl leave b).listeners = b.listeners.filter (· ∉ streams) := by
  rw [listeners, live_foldl_leave, listeners, List.filter_map]
  rfl

end NodeWatch.Broadcaster
