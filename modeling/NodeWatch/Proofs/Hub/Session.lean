import Mathlib.Tactic.Common
import NodeWatch.Proofs.Hub.Invariant

/-!
# Sessions of a hub

A session is a hub and the streams that its subscribers hold. Whatever is done in whatever order,
the directory has one observer for each address, every stream that is held belongs to the observer
that the directory has for its address, and sources run for the observers of the directory and no
others. This is `Session.run_consistent`, which follows from an invariant that each operation keeps.
-/

namespace NodeWatch

open Files Resource

namespace Hub

/-- What monitors, the manager and time do to a hub, each as a whole. -/
inductive Operation where
  /-- A monitor registers. It subscribes to addresses; `refusal` is an error of its own. -/
  | register (addresses : List Address) (refusal : Option SubscribeError)
  /-- Somebody who has a handle subscribes, up to the first address that fails. -/
  | subscribe (addresses : List Address)
  /-- The end of a registration that failed, also where the monitor did not drop its streams. -/
  | release (addresses : List Address)
  /-- The receivers of streams are dropped. -/
  | leave (streams : List StreamId)
  | start
  | cancel
  /-- Every started source looks once. -/
  | look (files : Tree)
  /-- Every observer fans out what it read next. -/
  | deliver
  | take (stream : StreamId)
  | takeOne (stream : StreamId)

/-- A hub, and the streams that subscriptions have given and nobody has dropped, with the addresses
that were subscribed to. -/
structure Session where
  hub : Hub
  held : List (Address × StreamId) := []

namespace Session

def new (root : Rootfs) : Session :=
  { hub := .new root }

def step (s : Session) : Operation → Session
  | .register addresses refusal => match s.hub.register addresses refusal with
    | (.ok streams, hub) => ⟨hub, s.held ++ addresses.zip streams⟩
    | (.error _, hub) => ⟨hub, s.held⟩
  | .subscribe addresses =>
    let (streams, _, hub) := s.hub.subscribeAll addresses
    ⟨hub, s.held ++ streams⟩
  | .release addresses => ⟨s.hub.release addresses, s.held⟩
  | .leave streams => ⟨s.hub.leave streams, s.held.filter fun p => p.2 ∉ streams⟩
  | .start => ⟨s.hub.start, s.held⟩
  | .cancel => ⟨s.hub.cancel, s.held⟩
  | .look files => ⟨(s.hub.look files).1, s.held⟩
  | .deliver => ⟨s.hub.deliver.1, s.held⟩
  | .take stream => ⟨(s.hub.take stream).2, s.held⟩
  | .takeOne stream => ⟨(s.hub.takeOne stream).2, s.held⟩

def run (s : Session) (ops : List Operation) : Session :=
  ops.foldl step s

end Session

/-! ### Several addresses -/

/-- A subscription that succeeds gives the next stream number. -/
lemma Invariant.subscribed {h h' : Hub} (hi : h.Invariant) {a : Address} {stream : StreamId}
    (hs : h.subscribe a = .ok (stream, h')) :
    stream = h.nextStream ∧ ∃ id o, Subscribed h a id o h' :=
  subscribe_cases (fun _ hfound => (hi.found hfound).imp fun _ => And.left) hs

/-- Several subscriptions are single ones in a row; each gives the next stream number. -/
lemma subscribeAll_induction {P : Hub → List (Address × StreamId) → Hub → Prop}
    (hnil : ∀ h : Hub, h.Invariant → P h [] h)
    (hcons : ∀ {h h' h'' : Hub} {a id o streams}, h.Invariant → Subscribed h a id o h' →
      P h' streams h'' → P h ((a, h.nextStream) :: streams) h'')
    {h : Hub} (hi : h.Invariant) (addresses : List Address) :
    P h (h.subscribeAll addresses).1 (h.subscribeAll addresses).2.2 := by
  induction addresses generalizing h with
  | nil => exact hnil h hi
  | cons a addresses ih =>
    rcases hs : h.subscribe a with e | ⟨stream, h'⟩
    · simpa [subscribeAll, hs] using hnil h hi
    · obtain ⟨rfl, id, o, hsub⟩ := hi.subscribed hs
      simpa [subscribeAll, hs] using hcons hi hsub (ih (hsub.invariant hi))

lemma Invariant.subscribeAll {h : Hub} (hi : h.Invariant) (addresses : List Address) :
    (h.subscribeAll addresses).2.2.Invariant :=
  subscribeAll_induction (P := fun _ _ h' => h'.Invariant) (fun _ hi => hi)
    (fun _ _ hrest => hrest) hi addresses

lemma AllStarted.subscribeAll {h : Hub} (hall : h.AllStarted) (hi : h.Invariant)
    (addresses : List Address) : (h.subscribeAll addresses).2.2.AllStarted :=
  subscribeAll_induction (P := fun h _ h' => h.AllStarted → h'.AllStarted) (fun _ _ hall => hall)
    (fun hi hsub hrest hall => hrest (hsub.allStarted hi hall)) hi addresses hall

lemma Serves.subscribeAll {h : Hub} {a : Address} {stream : StreamId} (hserves : h.Serves a stream)
    (hi : h.Invariant) (addresses : List Address) :
    (h.subscribeAll addresses).2.2.Serves a stream :=
  subscribeAll_induction (P := fun h _ h' => h.Serves a stream → h'.Serves a stream)
    (fun _ _ hserves => hserves) (fun _ hsub hrest hs => hrest (hsub.serves_of_serves hs))
    hi addresses hserves

/-- Every stream given is served. -/
lemma serves_subscribeAll {h : Hub} (hi : h.Invariant) (addresses : List Address) :
    ∀ p ∈ (h.subscribeAll addresses).1, (h.subscribeAll addresses).2.2.Serves p.1 p.2 := by
  refine (subscribeAll_induction (P := fun h streams h' =>
    (∀ a stream, h.Serves a stream → h'.Serves a stream) ∧ ∀ p ∈ streams, h'.Serves p.1 p.2)
    (fun h _ => ⟨fun _ _ hs => hs, by simp⟩) ?_ hi addresses).2
  intro h h' h'' a id o streams _ hsub ⟨hold, hnew⟩
  refine ⟨fun a stream hs => hold a stream (hsub.serves_of_serves hs), fun p hp => ?_⟩
  rcases List.mem_cons.mp hp with rfl | hp
  · exact hold _ _ hsub.serves
  · exact hnew p hp

/-- The streams given are numbered from the next number on. -/
lemma streams_subscribeAll {h : Hub} (hi : h.Invariant) (addresses : List Address) :
    (h.subscribeAll addresses).2.2.nextStream =
        h.nextStream + (h.subscribeAll addresses).1.length ∧
      (h.subscribeAll addresses).1.map Prod.snd =
        List.range' h.nextStream (h.subscribeAll addresses).1.length := by
  refine subscribeAll_induction (P := fun h streams h' =>
    h'.nextStream = h.nextStream + streams.length ∧
      streams.map Prod.snd = List.range' h.nextStream streams.length)
    (fun h _ => ⟨rfl, rfl⟩) ?_ hi addresses
  intro h h' h'' a id o streams _ hsub ⟨hnext, hmap⟩
  rw [hsub.nextStream_eq] at hnext hmap
  constructor
  · rw [hnext, List.length_cons]
    exact Nat.add_right_comm _ _ _
  · rw [List.map_cons, hmap, List.length_cons, List.range'_succ]

lemma isRunning_subscribeAll {h : Hub} (hi : h.Invariant) (addresses : List Address) :
    (h.subscribeAll addresses).2.2.isRunning = h.isRunning :=
  subscribeAll_induction (P := fun h _ h' => h'.isRunning = h.isRunning) (fun _ _ => rfl)
    (fun _ hsub hrest => hrest.trans hsub.isRunning_eq) hi addresses

/-- Subscriptions that all succeed are to all the addresses. -/
lemma addresses_subscribeAll {h : Hub} {addresses : List Address}
    (hnone : (h.subscribeAll addresses).2.1 = none) :
    (h.subscribeAll addresses).1.map Prod.fst = addresses := by
  induction addresses generalizing h with
  | nil => rfl
  | cons a addresses ih =>
    rcases hs : h.subscribe a with e | ⟨stream, h'⟩
    · simp [subscribeAll, hs] at hnone
    · simp only [subscribeAll, hs] at hnone ⊢
      rw [List.map_cons, ih hnone]

lemma Invariant.release {h : Hub} (hi : h.Invariant) (addresses : List Address) :
    (h.release addresses).Invariant :=
  List.foldlRecOn _ _ hi fun _ hi a _ => hi.releaseOne a

lemma AllStarted.release {h : Hub} (hall : h.AllStarted) (addresses : List Address) :
    (h.release addresses).AllStarted :=
  List.foldlRecOn _ _ hall fun _ hall a _ => hall.releaseOne a

lemma Serves.release {h : Hub} {a : Address} {stream : StreamId} (hserves : h.Serves a stream)
    (addresses : List Address) : (h.release addresses).Serves a stream :=
  List.foldlRecOn (motive := fun h : Hub => h.Serves a stream) _ _ hserves
    fun _ hserves a _ => hserves.releaseOne a

lemma isRunning_release (h : Hub) (addresses : List Address) :
    (h.release addresses).isRunning = h.isRunning :=
  List.foldlRecOn (motive := fun h' : Hub => h'.isRunning = h.isRunning) _ _ rfl
    fun h' hrunning a _ => (h'.releaseOne_rest a).1.trans hrunning

/-- Streams that are served already are not given again. -/
lemma Serves.notMem_subscribeAll {h : Hub} {a : Address} {stream : StreamId}
    (hserves : h.Serves a stream) (hi : h.Invariant) (addresses : List Address) :
    stream ∉ (h.subscribeAll addresses).1.map Prod.snd := by
  obtain ⟨id, o, -, ho, hlistens⟩ := hserves
  rw [(streams_subscribeAll hi addresses).2, List.mem_range'_1]
  exact fun hmem => Nat.not_lt_of_le hmem.1 (hi.numbered ho stream hlistens)

/-- A registration that succeeds is a row of subscriptions. -/
lemma register_of_none {h : Hub} {addresses : List Address} {refusal : Option SubscribeError}
    (hnone : (h.subscribeAll addresses).2.1.or refusal = none) :
    h.register addresses refusal =
      (.ok ((h.subscribeAll addresses).1.map Prod.snd), (h.subscribeAll addresses).2.2) := by
  simp [register, hnone]

/-- A registration that fails drops the streams it has got, and releases their addresses. -/
lemma register_of_some {h : Hub} {addresses : List Address} {refusal : Option SubscribeError}
    {e : SubscribeError} (hsome : (h.subscribeAll addresses).2.1.or refusal = some e) :
    h.register addresses refusal =
      (.error e, ((h.subscribeAll addresses).2.2.leave
        ((h.subscribeAll addresses).1.map Prod.snd)).release
          ((h.subscribeAll addresses).1.map Prod.fst)) := by
  simp [register, hsome]

/-! ### Whole sessions -/

namespace Session

/-- What holds of a session between its operations. -/
structure Invariant (s : Session) : Prop where
  hub : s.hub.Invariant
  allStarted : s.hub.AllStarted
  served : ∀ p ∈ s.held, s.hub.Serves p.1 p.2

lemma Invariant.new (root : Rootfs) : (new root).Invariant where
  hub := .new root
  allStarted hrunning := by cases hrunning
  served := by simp [Session.new]

/-- An operation at every observer that concerns only lines, and the streams that are lost. -/
lemma Invariant.mapObservers {s : Session} (hs : s.Invariant) {f : Observer → Observer}
    {lost : List StreamId} (hf : ∀ o, Observer.Loses lost o (f o)) :
    Invariant ⟨{ s.hub with observers := s.hub.observers.map f },
      s.held.filter fun p => p.2 ∉ lost⟩ where
  hub := hs.hub.mapObservers hf
  allStarted := hs.allStarted
  served p hp := by
    obtain ⟨hp, hlost⟩ := List.mem_filter.mp hp
    exact (hs.served p hp).mapObservers hf (by simpa using hlost)

lemma Invariant.register {s : Session} (hs : s.Invariant) (addresses : List Address)
    (refusal : Option SubscribeError) : (s.step (.register addresses refusal)).Invariant := by
  have hsub := hs.hub.subscribeAll addresses
  have hall := hs.allStarted.subscribeAll hs.hub addresses
  have hold : ∀ p ∈ s.held, (s.hub.subscribeAll addresses).2.2.Serves p.1 p.2 :=
    fun p hp => (hs.served p hp).subscribeAll hs.hub addresses
  rcases herror : (s.hub.subscribeAll addresses).2.1.or refusal with _ | e
  · have hzip : addresses.zip ((s.hub.subscribeAll addresses).1.map Prod.snd) =
        (s.hub.subscribeAll addresses).1 := by
      have haddresses := addresses_subscribeAll (Option.or_eq_none_iff.mp herror).1
      exact (List.zip_of_prod haddresses rfl).symm
    simp only [step, register_of_none herror, hzip]
    refine ⟨hsub, hall, fun p hp => ?_⟩
    rcases List.mem_append.mp hp with hp | hp
    · exact hold p hp
    · exact serves_subscribeAll hs.hub addresses p hp
  · have hleft := hsub.mapObservers
      fun o => o.loses_leave ((s.hub.subscribeAll addresses).1.map Prod.snd)
    have hleftAll : ((s.hub.subscribeAll addresses).2.2.leave
      ((s.hub.subscribeAll addresses).1.map Prod.snd)).AllStarted := hall
    simp only [step, register_of_some herror]
    refine ⟨hleft.release _, hleftAll.release _, fun p hp => ?_⟩
    refine Serves.release ((hold p hp).mapObservers (fun o => o.loses_leave _) ?_) _
    exact (hs.served p hp).notMem_subscribeAll hs.hub addresses

lemma Invariant.step {s : Session} (hs : s.Invariant) (op : Operation) : (s.step op).Invariant := by
  have hkeep : s.held = s.held.filter fun p => p.2 ∉ ([] : List StreamId) := by simp
  cases op with
  | register addresses refusal => exact hs.register addresses refusal
  | subscribe addresses =>
    refine ⟨hs.hub.subscribeAll addresses, hs.allStarted.subscribeAll hs.hub addresses, ?_⟩
    intro p hp
    rcases List.mem_append.mp hp with hp | hp
    · exact (hs.served p hp).subscribeAll hs.hub addresses
    · exact serves_subscribeAll hs.hub addresses p hp
  | release addresses =>
    exact ⟨hs.hub.release addresses, hs.allStarted.release addresses,
      fun p hp => (hs.served p hp).release addresses⟩
  | leave streams => exact hs.mapObservers fun o => o.loses_leave streams
  | start => exact ⟨hs.hub.start.1, hs.hub.start.2, fun p hp => (hs.served p hp).start⟩
  | cancel => exact ⟨hs.hub.cancel, hs.allStarted, hs.served⟩
  | look files =>
    rw [Session.step, hub_look, hkeep]
    exact hs.mapObservers fun o => o.loses_look files s.hub.isCancelled
  | deliver =>
    rw [Session.step, hub_deliver, hkeep]
    exact hs.mapObservers fun o => o.loses_deliver
  | take stream =>
    rw [Session.step, hkeep]
    exact hs.mapObservers fun o => o.loses_take stream
  | takeOne stream =>
    rw [Session.step, hkeep]
    exact hs.mapObservers fun o => o.loses_takeOne stream

lemma Invariant.run {s : Session} (hs : s.Invariant) (ops : List Operation) :
    (s.run ops).Invariant :=
  List.foldlRecOn _ _ hs fun _ hs op _ => hs.step op

/-- A hub runs from its start on. -/
lemma isRunning_step {s : Session} (hs : s.Invariant) (op : Operation) :
    (s.step op).hub.isRunning = true ↔ s.hub.isRunning = true ∨ op = .start := by
  have hsub := isRunning_subscribeAll hs.hub
  cases op with
  | register addresses refusal =>
    rcases herror : (s.hub.subscribeAll addresses).2.1.or refusal with _ | e
    · simp [step, register_of_none herror, hsub]
    · simp [step, register_of_some herror, isRunning_release, Hub.leave, hsub]
  | subscribe addresses => simp [step, hsub]
  | release addresses => simp [step, isRunning_release]
  | start => simp [step, isRunning_start]
  | _ => simp [step, Hub.leave, Hub.cancel, Hub.look, Hub.deliver, Hub.take, Hub.takeOne]

lemma isRunning_run {s : Session} (hs : s.Invariant) (ops : List Operation) :
    (s.run ops).hub.isRunning = true ↔ s.hub.isRunning = true ∨ .start ∈ ops := by
  induction ops generalizing s with
  | nil => simp [Session.run]
  | cons op ops ih =>
    refine (ih (hs.step op)).trans ?_
    rw [isRunning_step hs, List.mem_cons, or_assoc, eq_comm (b := op)]

/-- Whatever monitors, the manager and time do to a hub, in whatever order:

* the directory leads from an address to at most one observer, and to one of that very address,
  which has as many parts as its kind takes;
* a stream that a subscription gave and nobody dropped has its live sender in the broadcaster of the
  observer that the directory has for the address;
* no source is started before the hub, afterwards the source of every observer of the directory has
  been started exactly once, and a started source that was not stopped belongs to the directory. -/
theorem run_consistent (root : Rootfs) (ops : List Operation) :
    let h := ((new root).run ops).hub
    (∀ a id, h.lookup? a = some id → a.parts.length = a.kind.partCount ∧
      ∃ o, h.observer? id = some o ∧ o.address = a) ∧
    (∀ id ∈ h.directory.values, ∀ id' ∈ h.directory.values, ∀ o o', h.observer? id = some o →
      h.observer? id' = some o' → o.address = o'.address → id = id') ∧
    (∀ a stream, (a, stream) ∈ ((new root).run ops).held → ∃ id o, h.lookup? a = some id ∧
      h.observer? id = some o ∧
      ∃ s ∈ o.broadcaster.subscribers, s.stream = stream ∧ s.isAlive = true) ∧
    (.start ∉ ops → h.started = []) ∧
    (.start ∈ ops → ∀ a id, h.lookup? a = some id → h.started.count id = 1) ∧
    (∀ id ∈ h.started, ∃ o, h.observer? id = some o ∧
      (o.isStopped = false → h.lookup? o.address = some id)) := by
  have hs := (Invariant.new root).run ops
  have hrunning := isRunning_run (.new root) ops
  intro h
  refine ⟨?_, ?_, ?_, ?_, ?_, ?_⟩
  · intro a id hfound
    obtain ⟨o, ho, rfl⟩ := hs.hub.found hfound
    exact ⟨by simpa [Address.isComplete] using hs.hub.complete ho, o, ho, rfl⟩
  · intro id hid id' hid' o o' ho ho' haddress
    obtain ⟨a, ha⟩ := (h.directory.mem_values).mp hid
    obtain ⟨a', ha'⟩ := (h.directory.mem_values).mp hid'
    have hsame : a = a' := by
      obtain ⟨o₁, ho₁, rfl⟩ := hs.hub.found ha
      obtain ⟨o₂, ho₂, rfl⟩ := hs.hub.found ha'
      rw [ho] at ho₁
      rw [ho'] at ho₂
      cases ho₁
      cases ho₂
      exact haddress
    rw [hsame, ha'] at ha
    exact (Option.some.inj ha).symm
  · intro a stream hheld
    obtain ⟨id, o, hfound, ho, hlistens⟩ := hs.served _ hheld
    exact ⟨id, o, hfound, ho, Broadcaster.mem_listeners.mp hlistens⟩
  · intro hstart
    refine hs.hub.unstarted (Bool.eq_false_iff.mpr fun hrun => ?_)
    rcases hrunning.mp hrun with hnew | hmem
    · cases hnew
    · exact hstart hmem
  · intro hstart a id hfound
    have hmem := hs.allStarted (hrunning.mpr (.inr hstart)) hfound
    exact List.count_eq_one_of_mem hs.hub.startedOnce hmem
  · intro id hid
    obtain ⟨o, ho, hstarted⟩ := hs.hub.mem_started.mp hid
    exact ⟨o, ho, hs.hub.unstopped ho hstarted⟩

end Session

end Hub

end NodeWatch
