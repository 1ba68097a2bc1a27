import Mathlib.Data.List.Induction
import Mathlib.Tactic.Common
import NodeWatch.Proofs.Broadcaster

/-!
# What subscribers get

A session is a broadcaster together with the receivers that were handed out. Subscribers come,
stall, catch up and leave in any order while lines are sent. What one of them gets depends on the
lines and on its own doings, and on nothing else: it is what the stream would get by itself
(`Reception.step`). The main statement is `Session.run_delivers`.
-/

namespace NodeWatch.Broadcaster

/-- What the source and the subscribers do. Streams are numbered as they are handed out. -/
inductive Operation where
  | subscribe (capacity : Nat)
  | send (line : String)
  /-- The holder of a stream takes its oldest line, if one waits. -/
  | receive (stream : StreamId)
  /-- The receiver of a stream is dropped. -/
  | leave (stream : StreamId)
  /-- Somebody asks whether a subscriber is left; those that have gone are forgotten. -/
  | prune

def Operation.isSubscribe : Operation → Bool
  | subscribe _ => true
  | _ => false

/-- What the holder of a stream knows of it. -/
structure Receiver where
  capacity : Nat
  received : List String := []
  /-- The lines that waited when the receiver was dropped. -/
  lost : List String := []
  isOpen : Bool := true

/-- The receiver after an attempt to receive. -/
def Receiver.take (line : Option String) (r : Receiver) : Receiver :=
  { r with received := r.received ++ line.toList }

/-- The receiver is dropped while lines wait. -/
def Receiver.drop (lost : List String) (r : Receiver) : Receiver :=
  { r with lost, isOpen := false }

/-- A broadcaster, and the receivers of all streams handed out, by number. -/
structure Session where
  broadcaster : Broadcaster := {}
  receivers : List Receiver := []

namespace Session

def isOpen (s : Session) (stream : StreamId) : Bool :=
  s.receivers[stream]?.any Receiver.isOpen

/-- Nothing can be done with a receiver that was not handed out or was dropped. -/
def step (s : Session) : Operation → Session
  | .subscribe capacity =>
    ⟨s.broadcaster.subscribe s.receivers.length capacity, s.receivers ++ [{ capacity }]⟩
  | .send line => ⟨(s.broadcaster.send line).2, s.receivers⟩
  | .receive stream =>
    if s.isOpen stream then
      ⟨(s.broadcaster.takeOne stream).2,
        s.receivers.modify stream (.take (s.broadcaster.takeOne stream).1)⟩
    else s
  | .leave stream =>
    if s.isOpen stream then
      ⟨s.broadcaster.leave stream,
        s.receivers.modify stream (.drop (s.broadcaster.waiting stream))⟩
    else s
  | .prune => ⟨s.broadcaster.prune, s.receivers⟩

def run (s : Session) (ops : List Operation) : Session :=
  ops.foldl step s

end Session

/-- What has become of a stream: the lines taken from it, and those that wait, or waited when its
receiver was dropped. -/
structure Reception where
  capacity : Nat
  received : List String := []
  waiting : List String := []
  isOpen : Bool := true
  deriving DecidableEq, Repr

/-- What happens to one stream. -/
inductive Event where
  | send (line : String)
  | receive
  | leave
  deriving DecidableEq, Repr

/-- What an operation is to a stream, if it concerns it. -/
def Operation.event? (stream : StreamId) : Operation → Option Event
  | subscribe _ => none
  | send line => some (.send line)
  | receive other => if other = stream then some .receive else none
  | leave other => if other = stream then some .leave else none
  | prune => none

namespace Reception

/-- Whether a line that is sent now will be received. -/
def hasRoom (r : Reception) : Bool :=
  r.isOpen && r.waiting.length < r.capacity

/-- A stream by itself. -/
def step (r : Reception) : Event → Reception
  | .send line => if r.hasRoom then { r with waiting := r.waiting ++ [line] } else r
  | .receive =>
    if r.isOpen then
      { r with received := r.received ++ r.waiting.head?.toList, waiting := r.waiting.tail }
    else r
  | .leave => { r with isOpen := false }

end Reception

namespace Session

def reception? (s : Session) (stream : StreamId) : Option Reception :=
  s.receivers[stream]?.map fun r =>
    { capacity := r.capacity
      received := r.received
      waiting := if r.isOpen then s.broadcaster.waiting stream else r.lost
      isOpen := r.isOpen }

/-- Whether a stream was handed out, its receiver lives, and fewer lines wait than may. -/
def hasRoom (s : Session) (stream : StreamId) : Bool :=
  (s.reception? stream).any Reception.hasRoom

/-- The line of an operation, if it is sent while a stream has room. -/
def admits (s : Session) (stream : StreamId) : Operation → List String
  | .send line => if s.hasRoom stream then [line] else []
  | _ => []

/-- The lines that are sent while a stream has room, in the course of operations. -/
def admitted (stream : StreamId) (s : Session) : List Operation → List String
  | [] => []
  | op :: ops => s.admits stream op ++ (s.step op).admitted stream ops

end Session

/-! ### What waits in a stream -/

/-- The first subscriber with a stream. -/
def subscriber? (b : Broadcaster) (stream : StreamId) : Option Subscriber :=
  b.subscribers.find? fun s => s.stream == stream

lemma waiting_eq_getD (b : Broadcaster) (stream : StreamId) :
    b.waiting stream = ((b.subscriber? stream).map Subscriber.waiting).getD [] := rfl

lemma subscriber?_eq_some_of_mem {b : Broadcaster}
    (hdistinct : (b.subscribers.map Subscriber.stream).Nodup) {s : Subscriber}
    (hs : s ∈ b.subscribers) : b.subscriber? s.stream = some s := by
  obtain ⟨before, after, hsplit⟩ := List.append_of_mem hs
  rw [hsplit, List.map_append, List.map_cons, List.nodup_append] at hdistinct
  have hbefore : before.find? (fun s' => s'.stream == s.stream) = none := by
    refine List.find?_eq_none.mpr fun s' hs' => ?_
    have hne := hdistinct.2.2 s'.stream (List.mem_map_of_mem hs') s.stream (by simp)
    simpa using hne
  simp [subscriber?, hsplit, List.find?_append, hbefore]

lemma waiting_eq_of_mem {b : Broadcaster}
    (hdistinct : (b.subscribers.map Subscriber.stream).Nodup) {s : Subscriber}
    (hs : s ∈ b.subscribers) : b.waiting s.stream = s.waiting := by
  rw [waiting_eq_getD, subscriber?_eq_some_of_mem hdistinct hs]
  rfl

lemma waiting_subscribe (b : Broadcaster) (stream : StreamId) (capacity : Nat) (k : StreamId) :
    (b.subscribe stream capacity).waiting k = b.waiting k := by
  have hsubscriber : (b.subscribe stream capacity).subscriber? k =
      (b.subscriber? k).or (if stream = k then some { stream, capacity } else none) := by
    by_cases hk : stream = k <;> simp [subscriber?, subscribe, List.find?_append, hk]
  rw [waiting_eq_getD, waiting_eq_getD, hsubscriber]
  rcases b.subscriber? k with _ | s
  · split_ifs <;> rfl
  · rfl

lemma subscriber?_modify {f : Subscriber → Subscriber} (hf : ∀ s, (f s).stream = s.stream)
    (b : Broadcaster) (stream k : StreamId) :
    (b.modify stream f).subscriber? k =
      (b.subscriber? k).map fun s => if stream = k then f s else s := by
  have hstream : ∀ s : Subscriber, (if s.stream = stream then f s else s).stream = s.stream := by
    intro s
    split_ifs
    · exact hf s
    · rfl
  simp only [subscriber?, modify, List.find?_map, Function.comp_def, hstream]
  refine Option.map_congr fun s hs => ?_
  have hk : s.stream = k := by simpa using List.find?_some hs
  simp only [hk, eq_comm (a := k)]

lemma waiting_leave (b : Broadcaster) (stream k : StreamId) :
    (b.leave stream).waiting k = b.waiting k := by
  rw [waiting_eq_getD, leave, subscriber?_modify (by simp), Option.map_map, waiting_eq_getD]
  congr 2
  funext s
  simp only [Function.comp_apply]
  split_ifs <;> rfl

lemma takeOne_fst (b : Broadcaster) (stream : StreamId) :
    (b.takeOne stream).1 = (b.waiting stream).head? := rfl

lemma waiting_takeOne (b : Broadcaster) (stream k : StreamId) :
    (b.takeOne stream).2.waiting k = if stream = k then (b.waiting k).tail else b.waiting k := by
  rw [waiting_eq_getD, takeOne, subscriber?_modify (by simp), waiting_eq_getD]
  rcases b.subscriber? k with _ | s
  · simp
  · split_ifs <;> simp

lemma streams_modify {f : Subscriber → Subscriber} (hf : ∀ s, (f s).stream = s.stream)
    (b : Broadcaster) (stream : StreamId) :
    (b.modify stream f).subscribers.map Subscriber.stream =
      b.subscribers.map Subscriber.stream := by
  rw [modify, List.map_map]
  refine List.map_congr_left fun s _ => ?_
  simp only [Function.comp_apply]
  split_ifs
  · exact hf s
  · rfl

lemma streams_takeOne (b : Broadcaster) (stream : StreamId) :
    (b.takeOne stream).2.subscribers.map Subscriber.stream =
      b.subscribers.map Subscriber.stream := by
  rw [takeOne]
  exact streams_modify (by simp) b stream

lemma streams_leave (b : Broadcaster) (stream : StreamId) :
    (b.leave stream).subscribers.map Subscriber.stream = b.subscribers.map Subscriber.stream := by
  rw [leave]
  exact streams_modify (by simp) b stream

lemma streams_send_sublist (b : Broadcaster) (line : String) :
    ((b.send line).2.subscribers.map Subscriber.stream).Sublist
      (b.subscribers.map Subscriber.stream) := by
  simp only [send, prune, List.map_map, Function.comp_def, stream_offer]
  exact List.filter_sublist.map _

/-! ### The invariant -/

namespace Session

/-- The live subscribers of the broadcaster are those whose receivers are open. -/
structure Invariant (s : Session) : Prop where
  streams : (s.broadcaster.subscribers.map Subscriber.stream).Sublist
    (List.range s.receivers.length)
  listeners : s.broadcaster.listeners = (List.range s.receivers.length).filter s.isOpen
  capacity : ∀ sub ∈ s.broadcaster.live,
    (s.receivers[sub.stream]?).map Receiver.capacity = some sub.capacity

lemma isOpen_eq_getElem? {s : Session} {k : StreamId} {r : Receiver}
    (hr : s.receivers[k]? = some r) : s.isOpen k = r.isOpen := by
  simp [isOpen, hr]

lemma isOpen_modify_take (b : Broadcaster) (s : Session) (stream : StreamId)
    (line : Option String) :
    isOpen ⟨b, s.receivers.modify stream (.take line)⟩ = s.isOpen := by
  funext k
  rw [isOpen, List.getElem?_modify, isOpen]
  rcases s.receivers[k]? with _ | r
  · rfl
  · split_ifs <;> rfl

lemma isOpen_modify_drop (b : Broadcaster) (s : Session) (stream k : StreamId)
    (lost : List String) :
    isOpen ⟨b, s.receivers.modify stream (.drop lost)⟩ k =
      (s.isOpen k && decide (k ≠ stream)) := by
  rw [isOpen, List.getElem?_modify, isOpen]
  rcases s.receivers[k]? with _ | r
  · rfl
  · by_cases hk : stream = k
    · simp [hk, Receiver.drop]
    · simp [hk, Ne.symm hk]

lemma capacity_modify {f : Receiver → Receiver} (hf : ∀ r, (f r).capacity = r.capacity)
    (s : Session) (stream k : StreamId) :
    (s.receivers.modify stream f)[k]?.map Receiver.capacity =
      s.receivers[k]?.map Receiver.capacity := by
  rw [List.getElem?_modify]
  split_ifs <;> simp [Function.comp_def, hf]

namespace Invariant

lemma empty : ({} : Session).Invariant where
  streams := .slnil
  listeners := rfl
  capacity := by simp

variable {s : Session}

lemma distinct (hs : s.Invariant) : (s.broadcaster.subscribers.map Subscriber.stream).Nodup :=
  List.nodup_range.sublist hs.streams

lemma stream_lt (hs : s.Invariant) {sub : Subscriber} (hsub : sub ∈ s.broadcaster.live) :
    sub.stream < s.receivers.length := by
  have hmem := List.mem_map_of_mem (f := Subscriber.stream) (List.mem_filter.mp hsub).1
  exact List.mem_range.mp (hs.streams.subset hmem)

lemma subscribe (hs : s.Invariant) (capacity : Nat) :
    (s.step (.subscribe capacity)).Invariant := by
  constructor
  · simpa [step, Broadcaster.subscribe, List.range_succ] using hs.streams
  · have hold : ∀ k ∈ List.range s.receivers.length,
        s.isOpen k = (s.step (.subscribe capacity)).isOpen k := by
      intro k hk
      simp [isOpen, step, List.getElem?_append_left (List.mem_range.mp hk)]
    have hnew : (s.step (.subscribe capacity)).isOpen s.receivers.length = true := by
      simp [isOpen, step]
    have hlength : (s.step (.subscribe capacity)).receivers.length = s.receivers.length + 1 := by
      simp [step]
    rw [hlength, List.range_succ, List.filter_append, ← List.filter_congr hold, ← hs.listeners,
      List.filter_cons_of_pos hnew]
    exact listeners_subscribe _ _ _
  · intro sub hsub
    simp only [step, live_subscribe, List.mem_append, List.mem_singleton] at hsub ⊢
    rcases hsub with hsub | rfl
    · rw [List.getElem?_append_left (hs.stream_lt hsub)]
      exact hs.capacity sub hsub
    · simp

lemma send (hs : s.Invariant) (line : String) : (s.step (.send line)).Invariant := by
  constructor
  · exact (streams_send_sublist _ _).trans hs.streams
  · exact (listeners_send _ _).trans hs.listeners
  · intro sub hsub
    simp only [step, live_send, List.mem_map] at hsub ⊢
    obtain ⟨sub, hsub, rfl⟩ := hsub
    have hcapacity : (sub.offer line).capacity = sub.capacity := by
      unfold Subscriber.offer
      split_ifs <;> rfl
    rw [stream_offer, hcapacity]
    exact hs.capacity sub hsub

lemma receive (hs : s.Invariant) (stream : StreamId) : (s.step (.receive stream)).Invariant := by
  rw [step]
  split_ifs with hopen
  · constructor
    · simpa only [streams_takeOne, List.length_modify] using hs.streams
    · simpa only [listeners_takeOne, isOpen_modify_take, List.length_modify] using hs.listeners
    · intro sub hsub
      have hlive := live_modify (f := fun s => { s with waiting := s.waiting.tail }) (by simp)
        s.broadcaster stream
      simp only [takeOne, hlive, List.mem_map] at hsub
      obtain ⟨sub, hsub, rfl⟩ := hsub
      refine (capacity_modify (f := .take _) (fun _ => rfl) s stream _).trans ?_
      have hcapacity := hs.capacity sub hsub
      split_ifs <;> exact hcapacity
  · exact hs

lemma leave (hs : s.Invariant) (stream : StreamId) : (s.step (.leave stream)).Invariant := by
  rw [step]
  split_ifs with hopen
  · constructor
    · simpa only [streams_leave, List.length_modify] using hs.streams
    · have hlisteners := listeners_foldl_leave s.broadcaster [stream]
      rw [List.foldl_cons, List.foldl_nil, hs.listeners, List.filter_filter] at hlisteners
      simp only [hlisteners, List.length_modify]
      refine List.filter_congr fun k _ => ?_
      rw [isOpen_modify_drop, Bool.and_comm]
      simp
    · intro sub hsub
      simp only [live_leave] at hsub
      exact (capacity_modify (f := .drop _) (fun _ => rfl) s stream _).trans
        (hs.capacity sub (List.mem_filter.mp hsub).1)
  · exact hs

lemma prune (hs : s.Invariant) : (s.step .prune).Invariant := by
  constructor
  · exact (List.filter_sublist.map _).trans hs.streams
  · exact (listeners_prune _).trans hs.listeners
  · intro sub hsub
    rw [step, live_prune] at hsub
    exact hs.capacity sub hsub

lemma step (hs : s.Invariant) (op : Operation) : (s.step op).Invariant := by
  cases op with
  | subscribe capacity => exact hs.subscribe capacity
  | send line => exact hs.send line
  | receive stream => exact hs.receive stream
  | leave stream => exact hs.leave stream
  | prune => exact hs.prune

lemma run (hs : s.Invariant) (ops : List Operation) : (s.run ops).Invariant :=
  List.foldlRecOn _ _ hs fun _ hs op _ => hs.step op

/-- The sender of an open receiver. -/
lemma exists_live (hs : s.Invariant) {k : StreamId} {r : Receiver} (hr : s.receivers[k]? = some r)
    (hopen : r.isOpen = true) :
    ∃ sub ∈ s.broadcaster.live, sub.stream = k ∧ sub.capacity = r.capacity ∧
      s.broadcaster.waiting k = sub.waiting := by
  have hk : k ∈ s.broadcaster.listeners := by
    rw [hs.listeners, List.mem_filter, List.mem_range]
    exact ⟨(List.getElem?_eq_some_iff.mp hr).1, (isOpen_eq_getElem? hr).trans hopen⟩
  obtain ⟨sub, hsub, rfl⟩ := List.mem_map.mp hk
  have hcapacity := hs.capacity sub hsub
  rw [hr] at hcapacity
  exact ⟨sub, hsub, rfl, (Option.some.inj hcapacity).symm,
    waiting_eq_of_mem hs.distinct (List.mem_filter.mp hsub).1⟩

lemma waiting_send (hs : s.Invariant) {k : StreamId} {r : Receiver}
    (hr : s.receivers[k]? = some r) (hopen : r.isOpen = true) (line : String) :
    (s.broadcaster.send line).2.waiting k =
      if (s.broadcaster.waiting k).length < r.capacity then s.broadcaster.waiting k ++ [line]
      else s.broadcaster.waiting k := by
  obtain ⟨sub, hsub, rfl, hcapacity, hwaiting⟩ := hs.exists_live hr hopen
  have hoffered : sub.offer line ∈ (s.broadcaster.send line).2.live := by
    rw [live_send]
    exact List.mem_map_of_mem hsub
  have hafter := waiting_eq_of_mem (hs.send line).distinct (List.mem_filter.mp hoffered).1
  rw [stream_offer] at hafter
  rw [hwaiting, ← hcapacity]
  refine hafter.trans ?_
  simp only [Subscriber.offer, Subscriber.hasRoom, decide_eq_true_eq]
  split_ifs <;> rfl

lemma waiting_prune (hs : s.Invariant) {k : StreamId} {r : Receiver}
    (hr : s.receivers[k]? = some r) (hopen : r.isOpen = true) :
    s.broadcaster.prune.waiting k = s.broadcaster.waiting k := by
  obtain ⟨sub, hsub, rfl, -, hwaiting⟩ := hs.exists_live hr hopen
  exact (waiting_eq_of_mem hs.prune.distinct hsub).trans hwaiting.symm

end Invariant

/-! ### What becomes of a stream -/

lemma reception?_eq_some {s : Session} {k : StreamId} {r : Receiver}
    (hr : s.receivers[k]? = some r) :
    s.reception? k = some ⟨r.capacity, r.received,
      if r.isOpen then s.broadcaster.waiting k else r.lost, r.isOpen⟩ := by
  simp [reception?, hr]

/-- Each operation does to a stream what its event does to the stream by itself. -/
lemma reception?_step {s : Session} (hs : s.Invariant) (op : Operation) {k : StreamId}
    (hk : k < s.receivers.length) :
    (s.step op).reception? k = (s.reception? k).map fun r => (op.event? k).elim r r.step := by
  obtain ⟨r, hr⟩ : ∃ r, s.receivers[k]? = some r := ⟨_, List.getElem?_eq_getElem hk⟩
  have hopen := isOpen_eq_getElem? hr
  cases op with
  | subscribe capacity =>
    have hr' : (s.step (.subscribe capacity)).receivers[k]? = some r := by
      rw [← hr]
      exact List.getElem?_append_left hk
    rw [reception?_eq_some hr', reception?_eq_some hr]
    simp [step, waiting_subscribe, Operation.event?]
  | send line =>
    rw [reception?_eq_some (s := s.step (.send line)) hr, reception?_eq_some hr]
    rcases hro : r.isOpen with _ | _
    · simp [Operation.event?, Reception.step, Reception.hasRoom]
    · simp only [step, hs.waiting_send hr hro, Operation.event?, Reception.step, Reception.hasRoom,
        Option.map_some, Option.elim_some, if_true, Bool.true_and, decide_eq_true_eq]
      split_ifs <;> rfl
  | receive stream =>
    rw [step]
    by_cases hstream : stream = k
    · subst hstream
      rcases hro : r.isOpen with _ | _
      · simp [hopen, hro, reception?_eq_some hr, Operation.event?, Reception.step]
      · simp [hopen, hro, reception?, hr, Operation.event?, Reception.step, Receiver.take,
          takeOne_fst, waiting_takeOne]
    · split_ifs
      · simp [reception?, hr, Operation.event?, hstream, waiting_takeOne]
      · simp [Operation.event?, hstream]
  | leave stream =>
    rw [step]
    by_cases hstream : stream = k
    · subst hstream
      rcases hro : r.isOpen with _ | _
      · simp [hopen, hro, reception?_eq_some hr, Operation.event?, Reception.step]
      · simp [hopen, hro, reception?, hr, Operation.event?, Reception.step, Receiver.drop]
    · split_ifs
      · simp [reception?, hr, Operation.event?, hstream, waiting_leave]
      · simp [Operation.event?, hstream]
  | prune =>
    rw [reception?_eq_some (s := s.step .prune) hr, reception?_eq_some hr]
    rcases hro : r.isOpen with _ | _
    · simp [Operation.event?]
    · simp [Operation.event?, step, hs.waiting_prune hr hro]

lemma length_receivers_step (s : Session) (op : Operation) :
    (s.step op).receivers.length =
      s.receivers.length + if op.isSubscribe then 1 else 0 := by
  cases op with
  | subscribe capacity => simp [step, Operation.isSubscribe]
  | send line => rfl
  | receive stream =>
    rw [step]
    split_ifs <;> simp_all [Operation.isSubscribe]
  | leave stream =>
    rw [step]
    split_ifs <;> simp_all [Operation.isSubscribe]
  | prune => rfl

lemma length_receivers_run (s : Session) (ops : List Operation) :
    (s.run ops).receivers.length = s.receivers.length + ops.countP Operation.isSubscribe := by
  induction ops generalizing s with
  | nil => rfl
  | cons op ops ih =>
    rw [run, List.foldl_cons, ← run, ih, length_receivers_step, List.countP_cons]
    omega

/-- A stream fares as it would by itself. -/
lemma reception?_run {s : Session} (hs : s.Invariant) (ops : List Operation) {k : StreamId}
    (hk : k < s.receivers.length) :
    (s.run ops).reception? k =
      (s.reception? k).map fun r => (ops.filterMap (Operation.event? k)).foldl .step r := by
  induction ops generalizing s with
  | nil => simp [run]
  | cons op ops ih =>
    have hk' : k < (s.step op).receivers.length := by
      rw [length_receivers_step]
      exact Nat.lt_add_right _ hk
    rw [run, List.foldl_cons, ← run, ih (hs.step op) hk', reception?_step hs op hk, Option.map_map,
      List.filterMap_cons]
    congr 1
    funext r
    rcases op.event? k with _ | event <;> rfl

lemma reception?_subscribe {s : Session} (hs : s.Invariant) (capacity : Nat) :
    (s.step (.subscribe capacity)).reception? s.receivers.length = some { capacity } := by
  have hnew : (s.step (.subscribe capacity)).receivers[s.receivers.length]? =
      some { capacity } := by simp [step]
  have hwaiting : s.broadcaster.waiting s.receivers.length = [] := by
    have hnone : s.broadcaster.subscriber? s.receivers.length = none := by
      refine List.find?_eq_none.mpr fun sub hsub => ?_
      have hlt := List.mem_range.mp (hs.streams.subset (List.mem_map_of_mem hsub))
      simpa using Nat.ne_of_lt hlt
    rw [waiting_eq_getD, hnone]
    rfl
  rw [reception?_eq_some hnew]
  simp [step, waiting_subscribe, hwaiting]

/-- A stream is what its events make of an empty one. -/
lemma reception?_run_subscribe (earlier later : List Operation) (capacity : Nat) :
    (run {} (earlier ++ .subscribe capacity :: later)).reception?
        (earlier.countP Operation.isSubscribe) =
      some ((later.filterMap (Operation.event? (earlier.countP Operation.isSubscribe))).foldl .step
        { capacity }) := by
  have hs := Invariant.empty.run earlier
  have hlength : (run {} earlier).receivers.length = earlier.countP Operation.isSubscribe := by
    simp [length_receivers_run]
  have hrun : run {} (earlier ++ .subscribe capacity :: later) =
      ((run {} earlier).step (.subscribe capacity)).run later := by
    simp [run]
  have hlt : earlier.countP Operation.isSubscribe <
      ((run {} earlier).step (.subscribe capacity)).receivers.length := by
    rw [length_receivers_step, hlength]
    exact Nat.lt_succ_self _
  rw [hrun, reception?_run (hs.subscribe capacity) later hlt, ← hlength, reception?_subscribe hs]
  rfl

lemma reception?_eq_none {s : Session} {k : StreamId} (hk : s.receivers.length ≤ k) :
    s.reception? k = none := by
  rw [reception?, List.getElem?_eq_none hk]
  rfl

lemma admitted_concat (k : StreamId) (s : Session) (ops : List Operation) (op : Operation) :
    s.admitted k (ops ++ [op]) = s.admitted k ops ++ (s.run ops).admits k op := by
  induction ops generalizing s with
  | nil => simp [admitted, run]
  | cons first ops ih => simp [admitted, ih, run]

/-- What was taken from a stream and what waits in it grow by the lines that it has room for. -/
lemma received_append_waiting_step (s : Session) {k : StreamId} {r : Reception}
    (hr : s.reception? k = some r) (op : Operation) :
    let r' := (op.event? k).elim r r.step
    r'.received ++ r'.waiting = r.received ++ r.waiting ++ s.admits k op := by
  have hroom : s.hasRoom k = r.hasRoom := by simp [hasRoom, hr]
  cases op with
  | subscribe capacity => simp [Operation.event?, admits]
  | send line =>
    by_cases hrr : r.hasRoom = true <;> simp [Operation.event?, admits, Reception.step, hroom, hrr]
  | receive stream =>
    by_cases hstream : stream = k
    · rcases hro : r.isOpen with _ | _
      · simp [Operation.event?, admits, Reception.step, hstream, hro]
      · rcases hw : r.waiting with _ | ⟨line, lines⟩ <;>
          simp [Operation.event?, admits, Reception.step, hstream, hro, hw]
    · simp [Operation.event?, admits, hstream]
  | leave stream =>
    by_cases hstream : stream = k <;>
      simp [Operation.event?, admits, Reception.step, hstream]
  | prune => simp [Operation.event?, admits]

lemma admitted_eq (k : StreamId) (ops : List Operation) :
    ({} : Session).admitted k ops =
      ((run {} ops).reception? k).elim [] fun r => r.received ++ r.waiting := by
  induction ops using List.reverseRecOn with
  | nil => rfl
  | append_singleton ops op ih =>
    have hs := Invariant.empty.run ops
    have hrun : run {} (ops ++ [op]) = (run {} ops).step op := by simp [run]
    rw [admitted_concat, hrun, ih]
    rcases Nat.lt_or_ge k (run {} ops).receivers.length with hlt | hge
    · obtain ⟨r, hr⟩ : ∃ r, (run {} ops).reception? k = some r :=
        ⟨_, reception?_eq_some (List.getElem?_eq_getElem hlt)⟩
      rw [reception?_step hs op hlt, hr]
      exact (received_append_waiting_step _ hr op).symm
    · have hnone := reception?_eq_none hge
      have hadmits : (run {} ops).admits k op = [] := by
        cases op <;> simp [admits, hasRoom, hnone]
      rw [hnone, hadmits]
      -- a stream that is only now handed out is empty
      cases op with
      | subscribe capacity =>
        rcases Nat.lt_or_eq_of_le hge with hgt | rfl
        · rw [reception?_eq_none (by rw [length_receivers_step]; exact hgt)]
          rfl
        · rw [reception?_subscribe hs]
          rfl
      | _ =>
        rw [reception?_eq_none (by rw [length_receivers_step]; exact hge)]
        rfl

/-! ### All streams -/

lemma hasRoom_eq_false {s : Session} {k : StreamId} (hk : s.isOpen k = false) :
    s.hasRoom k = false := by
  rcases hr : s.receivers[k]? with _ | r
  · simp [hasRoom, reception?, hr]
  · have hclosed : r.isOpen = false := (isOpen_eq_getElem? hr).symm.trans hk
    simp [hasRoom, reception?, hr, Reception.hasRoom, hclosed]

lemma hasRoom_of_mem_live {s : Session} (hs : s.Invariant) {sub : Subscriber}
    (hsub : sub ∈ s.broadcaster.live) : s.hasRoom sub.stream = sub.hasRoom := by
  obtain ⟨r, hr, hcapacity⟩ := Option.map_eq_some_iff.mp (hs.capacity sub hsub)
  have hopen : r.isOpen = true := by
    have hlistens : sub.stream ∈ s.broadcaster.listeners := List.mem_map_of_mem hsub
    rw [hs.listeners, List.mem_filter] at hlistens
    exact (isOpen_eq_getElem? hr).symm.trans hlistens.2
  have hwaiting := waiting_eq_of_mem hs.distinct (List.mem_filter.mp hsub).1
  simp [hasRoom, reception?, hr, Reception.hasRoom, hopen, hwaiting, hcapacity,
    Subscriber.hasRoom]

/-- A line is delivered as often as there are streams with room for it. -/
lemma delivered_send {s : Session} (hs : s.Invariant) (line : String) :
    (s.broadcaster.send line).1.delivered =
      (List.range s.receivers.length).countP s.hasRoom := by
  have hopen : (List.range s.receivers.length).countP s.hasRoom =
      s.broadcaster.listeners.countP s.hasRoom := by
    rw [hs.listeners, List.countP_filter]
    refine List.countP_congr fun k _ => ?_
    rcases hk : s.isOpen k with _ | _
    · simp [hasRoom_eq_false hk]
    · simp
  rw [hopen, listeners, List.countP_map]
  refine List.countP_congr fun sub hsub => ?_
  rw [Function.comp_apply, hasRoom_of_mem_live hs hsub]

lemma isIdle_iff_isOpen {s : Session} (hs : s.Invariant) :
    s.broadcaster.isIdle = true ↔ ∀ k, s.isOpen k = false := by
  rw [isIdle_iff_listeners, hs.listeners, List.filter_eq_nil_iff]
  constructor
  · intro hall k
    rcases Nat.lt_or_ge k s.receivers.length with hlt | hge
    · exact Bool.eq_false_iff.mpr (hall k (List.mem_range.mpr hlt))
    · rw [isOpen, List.getElem?_eq_none hge]
      rfl
  · intro hall k _
    simp [hall k]

/-- Whatever is done with a broadcaster, in whatever order:

* the lines taken from a stream, followed by those that wait in it (or waited when its receiver was
  dropped), are the lines that were sent while the receiver lived and fewer lines waited than the
  stream may hold, in order and each once;
* a stream fares the same in any other course of things that has the same lines and in which the
  holder of the stream does the same, from the moment it is handed out with the same capacity;
* a line is delivered to as many receivers as live and have room for it;
* the broadcaster is idle if no receiver that was handed out lives. -/
theorem run_delivers (ops : List Operation) :
    let s := run {} ops
    (∀ k r, s.reception? k = some r →
      r.received ++ r.waiting = ({} : Session).admitted k ops) ∧
    (∀ earlier capacity later earlier' later',
      let k := earlier.countP Operation.isSubscribe
      let k' := earlier'.countP Operation.isSubscribe
      ops = earlier ++ .subscribe capacity :: later →
      later.filterMap (Operation.event? k) = later'.filterMap (Operation.event? k') →
      s.reception? k = (run {} (earlier' ++ .subscribe capacity :: later')).reception? k') ∧
    (∀ line, (s.broadcaster.send line).1.delivered =
      (List.range (ops.countP Operation.isSubscribe)).countP s.hasRoom) ∧
    (s.broadcaster.isIdle = true ↔ ∀ k, s.isOpen k = false) := by
  intro s
  have hs : s.Invariant := Invariant.empty.run ops
  refine ⟨?_, ?_, ?_, isIdle_iff_isOpen hs⟩
  · intro k r hr
    rw [admitted_eq, show (run {} ops).reception? k = some r from hr]
    rfl
  · rintro earlier capacity later earlier' later' k k' rfl hevents
    exact (reception?_run_subscribe earlier later capacity).trans
      (hevents ▸ (reception?_run_subscribe earlier' later' capacity).symm)
  · intro line
    rw [delivered_send hs, length_receivers_run]
    simp

end Session

end NodeWatch.Broadcaster
