import Mathlib.Data.List.Nodup
import NodeWatch.Proofs.Hub.Steps

/-!
# The invariant of a hub

The directory, the live streams and the started sources of a hub agree with each other. The
invariant says how; subscribing, releasing, starting and whatever only concerns the lines keep it.
-/

namespace NodeWatch

open Files Resource

namespace Observer

/-- Of an observer only the lines have changed, and some streams have gone. -/
structure Loses (lost : List StreamId) (o o' : Observer) : Prop where
  address_eq : o'.address = o.address
  isStarted_eq : o'.isStarted = o.isStarted
  isStopped_eq : o'.isStopped = o.isStopped
  listeners_eq : o'.broadcaster.listeners = o.broadcaster.listeners.filter (· ∉ lost)

/-- A change in which every stream stays. -/
lemma Loses.of_eq {o o' : Observer} (haddress : o'.address = o.address)
    (hstarted : o'.isStarted = o.isStarted) (hstopped : o'.isStopped = o.isStopped)
    (hlisteners : o'.broadcaster.listeners = o.broadcaster.listeners) : Loses [] o o' where
  address_eq := haddress
  isStarted_eq := hstarted
  isStopped_eq := hstopped
  listeners_eq := by simp [hlisteners]

lemma loses_leave (o : Observer) (streams : List StreamId) :
    Loses streams o { o with broadcaster := streams.foldl Broadcaster.leave o.broadcaster } where
  address_eq := rfl
  isStarted_eq := rfl
  isStopped_eq := rfl
  listeners_eq := o.broadcaster.listeners_foldl_leave streams

lemma loses_fanOut (o : Observer) (lines : List String) : Loses [] o (o.fanOut lines).1 := by
  induction lines generalizing o with
  | nil => exact .of_eq rfl rfl rfl rfl
  | cons line lines ih =>
    have hrest := ih { o with broadcaster := (o.broadcaster.send line).2 }
    have hlisteners := hrest.listeners_eq
    rw [Broadcaster.listeners_send] at hlisteners
    exact ⟨hrest.address_eq, hrest.isStarted_eq, hrest.isStopped_eq, hlisteners⟩

lemma loses_deliver (o : Observer) : Loses [] o o.deliver.1 := by
  unfold deliver
  split
  · exact .of_eq rfl rfl rfl rfl
  · next lines arrived _ =>
    obtain ⟨haddress, hstarted, hstopped, hlisteners⟩ :=
      loses_fanOut { o with arrived := arrived } lines
    exact ⟨haddress, hstarted, hstopped, hlisteners⟩

lemma loses_look (files : Tree) (isCancelled : Bool) (o : Observer) :
    Loses [] o (o.look files isCancelled).1 := by
  unfold look
  split_ifs
  · exact .of_eq rfl rfl rfl rfl
  · split <;> exact .of_eq rfl rfl rfl rfl
  · exact .of_eq rfl rfl rfl rfl

lemma loses_take (o : Observer) (stream : StreamId) :
    Loses [] o { o with broadcaster := (o.broadcaster.take stream).2 } :=
  .of_eq rfl rfl rfl (o.broadcaster.listeners_take stream)

lemma loses_takeOne (o : Observer) (stream : StreamId) :
    Loses [] o { o with broadcaster := (o.broadcaster.takeOne stream).2 } :=
  .of_eq rfl rfl rfl (o.broadcaster.listeners_takeOne stream)

end Observer

namespace Hub

/-- What holds of a hub between any two steps of subscribing and starting. -/
structure Invariant (h : Hub) : Prop where
  /-- The directory leads to observers of the addresses. -/
  found : ∀ {a id}, h.lookup? a = some id → ∃ o, h.observer? id = some o ∧ o.address = a
  complete : ∀ {id o}, h.observer? id = some o → o.address.isComplete = true
  /-- The numbers of new streams are new. -/
  numbered : ∀ {id o}, h.observer? id = some o →
    ∀ stream ∈ o.broadcaster.listeners, stream < h.nextStream
  /-- Who is listened to is in the directory. -/
  heard : ∀ {id o}, h.observer? id = some o → o.broadcaster.listeners ≠ [] →
    h.lookup? o.address = some id
  /-- No source is started before the hub is. -/
  unstarted : h.isRunning = false → h.started = []
  startedOnce : h.started.Nodup
  mem_started : ∀ {id}, id ∈ h.started ↔ ∃ o, h.observer? id = some o ∧ o.isStarted = true
  /-- A source that was started and not stopped is in the directory. -/
  unstopped : ∀ {id o}, h.observer? id = some o → o.isStarted = true → o.isStopped = false →
    h.lookup? o.address = some id
  /-- Only what was started is stopped. -/
  stopped : ∀ {id o}, h.observer? id = some o → o.isStopped = true → o.isStarted = true

/-- Every observer of a running hub has been started. -/
def AllStarted (h : Hub) : Prop :=
  h.isRunning = true → ∀ {a id}, h.lookup? a = some id → id ∈ h.started

/-- The stream belongs to the observer that the directory has for the address. -/
def Serves (h : Hub) (a : Address) (stream : StreamId) : Prop :=
  ∃ id o, h.lookup? a = some id ∧ h.observer? id = some o ∧ stream ∈ o.broadcaster.listeners

lemma Invariant.new (root : Rootfs) : (new root).Invariant where
  found h := by cases h
  complete h := by simp [observer?, Hub.new] at h
  numbered h := by simp [observer?, Hub.new] at h
  heard h := by simp [observer?, Hub.new] at h
  unstarted _ := rfl
  startedOnce := List.nodup_nil
  mem_started := by simp [observer?, Hub.new]
  unstopped h := by simp [observer?, Hub.new] at h
  stopped h := by simp [observer?, Hub.new] at h

/-- An observer is found at its own address only. -/
lemma Invariant.address_of_lookup? {h : Hub} (hi : h.Invariant) {a : Address} {id : ObserverId}
    {o : Observer} (hfound : h.lookup? a = some id) (ho : h.observer? id = some o) :
    o.address = a := by
  obtain ⟨o', ho', rfl⟩ := hi.found hfound
  rw [ho] at ho'
  cases ho'
  rfl

/-! ### Subscribing -/

section Subscribed

variable {h h' : Hub} {a : Address} {id : ObserverId} {o : Observer}

lemma Subscribed.address_eq (hi : h.Invariant) (hs : Subscribed h a id o h') : o.address = a := by
  rcases hs.origin with ⟨hfound, ho⟩ | ⟨-, -, -, source, rfl⟩
  · obtain ⟨o', ho', haddress⟩ := hi.found hfound
    rw [ho] at ho'
    cases ho'
    exact haddress
  · rfl

lemma Subscribed.isComplete (hi : h.Invariant) (hs : Subscribed h a id o h') :
    a.isComplete = true := by
  rcases hs.origin with ⟨-, ho⟩ | ⟨-, ha, -⟩
  · rw [← hs.address_eq hi]
    exact hi.complete ho
  · exact ha

lemma Subscribed.lookup?_self (hs : Subscribed h a id o h') : h'.lookup? a = some id := by
  rw [hs.lookup?_eq, if_pos rfl]

/-- The address led to no other observer. -/
lemma Subscribed.eq_of_lookup? (hs : Subscribed h a id o h') {j : ObserverId}
    (hj : h.lookup? a = some j) : j = id := by
  rcases hs.origin with ⟨hfound, -⟩ | ⟨hnone, -⟩
  · rw [hj] at hfound
    exact Option.some.inj hfound
  · rw [hj] at hnone
    cases hnone

/-- No other address led to the observer. -/
lemma Subscribed.address_of_lookup? (hi : h.Invariant) (hs : Subscribed h a id o h') {b : Address}
    (hb : h.lookup? b = some id) : b = a := by
  obtain ⟨o', ho', rfl⟩ := hi.found hb
  rcases hs.origin with ⟨-, ho⟩ | ⟨-, -, rfl, -⟩
  · rw [ho] at ho'
    cases ho'
    exact hs.address_eq hi
  · exact absurd (observer?_eq_some_lt ho') (Nat.lt_irrefl _)

/-- What the directory knew of another observer it still knows. -/
lemma Subscribed.lookup?_of_ne (hs : Subscribed h a id o h') {b : Address} {j : ObserverId}
    (hb : h.lookup? b = some j) (hj : j ≠ id) : h'.lookup? b = some j := by
  rw [hs.lookup?_eq]
  split_ifs with hba
  · exact absurd (hs.eq_of_lookup? (hba ▸ hb)) hj
  · exact hb

lemma Subscribed.mem_started_iff (hi : h.Invariant) (hs : Subscribed h a id o h') :
    id ∈ h.started ↔ o.isStarted = true := by
  rw [hi.mem_started]
  rcases hs.origin with ⟨-, ho⟩ | ⟨-, -, rfl, source, rfl⟩
  · simp [ho]
  · constructor
    · rintro ⟨o', ho', -⟩
      exact absurd (observer?_eq_some_lt ho') (Nat.lt_irrefl _)
    · intro hstarted
      cases hstarted

lemma Subscribed.invariant (hi : h.Invariant) (hs : Subscribed h a id o h') : h'.Invariant := by
  have haddress := hs.address_eq hi
  have hstarted := hs.mem_started_iff hi
  constructor
  case found =>
    intro b j hb
    rw [hs.lookup?_eq] at hb
    rw [hs.observer?_eq]
    split_ifs at hb with hba
    · cases hb
      exact ⟨_, if_pos rfl, haddress.trans hba.symm⟩
    · obtain ⟨o', ho', rfl⟩ := hi.found hb
      have hj : j ≠ id := by
        rintro rfl
        exact hba (hs.address_of_lookup? hi hb)
      exact ⟨o', by rw [if_neg hj, ho'], rfl⟩
  case complete =>
    intro j o' ho'
    rw [hs.observer?_eq] at ho'
    split_ifs at ho' with hj
    · cases ho'
      simpa [haddress] using hs.isComplete hi
    · exact hi.complete ho'
  case numbered =>
    intro j o' ho' stream hstream
    rw [hs.observer?_eq] at ho'
    rw [hs.nextStream_eq]
    split_ifs at ho' with hj
    · cases ho'
      rw [Broadcaster.listeners_subscribe, List.mem_append, List.mem_singleton] at hstream
      rcases hstream with hold | rfl
      · rcases hs.origin with ⟨-, ho⟩ | ⟨-, -, -, source, rfl⟩
        · exact Nat.lt_succ_of_lt (hi.numbered ho stream hold)
        · simp at hold
      · exact Nat.lt_succ_self _
    · exact Nat.lt_succ_of_lt (hi.numbered ho' stream hstream)
  case heard =>
    intro j o' ho' hheard
    rw [hs.observer?_eq] at ho'
    split_ifs at ho' with hj
    · cases ho'
      simpa [haddress, hj] using hs.lookup?_self
    · exact hs.lookup?_of_ne (hi.heard ho' hheard) hj
  case unstarted =>
    intro hrunning
    rw [hs.isRunning_eq] at hrunning
    rw [hs.started_eq, hi.unstarted hrunning, hrunning]
    simp
  case startedOnce =>
    rw [hs.started_eq]
    split_ifs with hnew
    · rw [← List.concat_eq_append]
      exact hi.startedOnce.concat (by simp [hstarted, hnew.2])
    · exact hi.startedOnce
  case mem_started =>
    intro j
    rw [hs.started_eq, hs.observer?_eq]
    by_cases hj : j = id
    · subst hj
      rcases hrunning : h.isRunning with _ | _ <;> rcases hold : o.isStarted with _ | _ <;>
        simp [hstarted, hold]
    · have hrest : j ∈ h.started ++ [id] ↔ j ∈ h.started := by simp [hj]
      rw [if_neg hj, ← hi.mem_started]
      split_ifs
      · exact hrest
      · rfl
  case unstopped =>
    intro j o' ho' hrun hstopped
    rw [hs.observer?_eq] at ho'
    split_ifs at ho' with hj
    · cases ho'
      simpa [haddress, hj] using hs.lookup?_self
    · exact hs.lookup?_of_ne (hi.unstopped ho' hrun hstopped) hj
  case stopped =>
    intro j o' ho' hstopped
    rw [hs.observer?_eq] at ho'
    split_ifs at ho' with hj
    · cases ho'
      rcases hs.origin with ⟨-, ho⟩ | ⟨-, -, -, source, rfl⟩
      · simpa using .inl (hi.stopped ho hstopped)
      · cases hstopped
    · exact hi.stopped ho' hstopped

lemma Subscribed.allStarted (hi : h.Invariant) (hall : h.AllStarted)
    (hs : Subscribed h a id o h') : h'.AllStarted := by
  intro hrunning b j hb
  rw [(hs.invariant hi).mem_started, hs.observer?_eq]
  rw [hs.isRunning_eq] at hrunning
  rw [hs.lookup?_eq] at hb
  split_ifs at hb with hba
  · cases hb
    exact ⟨_, if_pos rfl, by simp [hrunning]⟩
  · obtain ⟨o', ho', hstarted⟩ := hi.mem_started.mp (hall hrunning hb)
    have hj : j ≠ id := by
      rintro rfl
      exact hba (hs.address_of_lookup? hi hb)
    exact ⟨o', by rw [if_neg hj, ho'], hstarted⟩

lemma Subscribed.serves (hs : Subscribed h a id o h') : h'.Serves a h.nextStream :=
  ⟨id, _, hs.lookup?_self, by rw [hs.observer?_eq, if_pos rfl], by simp⟩

/-- Streams that were served before still are. -/
lemma Subscribed.serves_of_serves (hs : Subscribed h a id o h') {b : Address} {stream : StreamId}
    (hserves : h.Serves b stream) : h'.Serves b stream := by
  obtain ⟨j, o', hb, ho', hstream⟩ := hserves
  by_cases hj : j = id
  · subst hj
    rcases hs.origin with ⟨hfound, ho⟩ | ⟨-, -, rfl, -⟩
    · rw [ho] at ho'
      cases ho'
      refine ⟨j, _, ?_, by rw [hs.observer?_eq, if_pos rfl], by simp [hstream]⟩
      rw [hs.lookup?_eq]
      split_ifs
      · rfl
      · exact hb
    · exact absurd (observer?_eq_some_lt ho') (Nat.lt_irrefl _)
  · exact ⟨j, o', hs.lookup?_of_ne hb hj, by rw [hs.observer?_eq, if_neg hj, ho'], hstream⟩

end Subscribed

/-! ### Releasing -/

/-- The observer of an address that is released is the one that nobody listens to. -/
lemma isUnheard_iff {h : Hub} {a : Address} {id : ObserverId} {o : Observer}
    (hfound : h.lookup? a = some id) (ho : h.observer? id = some o) :
    h.isUnheard a = true ↔ o.broadcaster.listeners = [] := by
  rw [← Broadcaster.isIdle_iff_listeners]
  simp [isUnheard, hfound, ho]

lemma observer?_releaseOne_eq_some {h : Hub} {a : Address} {j : ObserverId} {o' : Observer}
    (ho' : (h.releaseOne a).observer? j = some o') :
    ∃ o, h.observer? j = some o ∧
      ((h.lookup? a = some j ∧ o' = o.letGo) ∨ (h.lookup? a ≠ some j ∧ o' = o)) := by
  rw [observer?_releaseOne] at ho'
  split_ifs at ho' with hj
  · obtain ⟨o, ho, rfl⟩ := Option.map_eq_some_iff.mp ho'
    exact ⟨o, ho, .inl ⟨hj, rfl⟩⟩
  · exact ⟨o', ho', .inr ⟨hj, rfl⟩⟩

/-- Releasing an address does not take an observer that is listened to out of the directory. -/
lemma lookup?_releaseOne_of_heard {h : Hub} {a b : Address} {j : ObserverId} {o : Observer}
    (hb : h.lookup? b = some j) (ho : h.observer? j = some o)
    (hheard : o.broadcaster.listeners ≠ []) : (h.releaseOne a).lookup? b = some j := by
  rw [lookup?_releaseOne, if_neg, hb]
  rintro ⟨rfl, hunheard⟩
  exact hheard ((isUnheard_iff hb ho).mp hunheard)

lemma Invariant.releaseOne {h : Hub} (hi : h.Invariant) (a : Address) :
    (h.releaseOne a).Invariant := by
  obtain ⟨hrunning, -, hstarted, hstream, -⟩ := h.releaseOne_rest a
  constructor
  case found =>
    intro b j hb
    rw [lookup?_releaseOne] at hb
    split_ifs at hb
    obtain ⟨o, ho, rfl⟩ := hi.found hb
    rw [observer?_releaseOne, ho]
    split_ifs
    · exact ⟨_, rfl, rfl⟩
    · exact ⟨o, rfl, rfl⟩
  case complete =>
    intro j o' ho'
    obtain ⟨o, ho, ⟨-, rfl⟩ | ⟨-, rfl⟩⟩ := observer?_releaseOne_eq_some ho'
    · exact hi.complete (o := o) ho
    · exact hi.complete ho
  case numbered =>
    intro j o' ho' stream hlistens
    rw [hstream]
    obtain ⟨o, ho, ⟨-, rfl⟩ | ⟨-, rfl⟩⟩ := observer?_releaseOne_eq_some ho'
    · exact hi.numbered ho stream (o.letGo_listeners ▸ hlistens)
    · exact hi.numbered ho stream hlistens
  case heard =>
    intro j o' ho' hheard
    obtain ⟨o, ho, ⟨-, rfl⟩ | ⟨-, rfl⟩⟩ := observer?_releaseOne_eq_some ho'
    · rw [Observer.letGo_listeners] at hheard
      exact lookup?_releaseOne_of_heard (hi.heard (o := o) ho hheard) ho hheard
    · exact lookup?_releaseOne_of_heard (hi.heard ho hheard) ho hheard
  case unstarted =>
    rw [hrunning, hstarted]
    exact hi.unstarted
  case startedOnce =>
    rw [hstarted]
    exact hi.startedOnce
  case mem_started =>
    intro j
    rw [hstarted, hi.mem_started, observer?_releaseOne]
    split_ifs <;> simp
  case unstopped =>
    intro j o' ho' hrun hstopped
    obtain ⟨o, ho, ⟨hj, rfl⟩ | ⟨hj, rfl⟩⟩ := observer?_releaseOne_eq_some ho'
    · have hnot : o.isStopped = false ∧ o.broadcaster.isIdle = false := by
        simpa [show o.isStarted = true from hrun] using hstopped
      refine lookup?_releaseOne_of_heard (hi.unstopped (o := o) ho hrun hnot.1) ho fun hnobody => ?_
      rw [← Broadcaster.isIdle_iff_listeners, hnot.2] at hnobody
      cases hnobody
    · have hlookup := hi.unstopped ho hrun hstopped
      rw [lookup?_releaseOne, if_neg, hlookup]
      rintro ⟨rfl, -⟩
      exact hj hlookup
  case stopped =>
    intro j o' ho' hstopped
    obtain ⟨o, ho, ⟨-, rfl⟩ | ⟨-, rfl⟩⟩ := observer?_releaseOne_eq_some ho'
    · rw [Observer.letGo_isStopped, Bool.or_eq_true, Bool.and_eq_true] at hstopped
      rcases hstopped with hbefore | ⟨hstarted, -⟩
      · exact hi.stopped (o := o) ho hbefore
      · exact hstarted
    · exact hi.stopped ho hstopped

lemma AllStarted.releaseOne {h : Hub} (hall : h.AllStarted) (a : Address) :
    (h.releaseOne a).AllStarted := by
  obtain ⟨hrunning, -, hstarted, -⟩ := h.releaseOne_rest a
  intro hrun b j hb
  rw [lookup?_releaseOne] at hb
  split_ifs at hb
  rw [hstarted]
  exact hall (hrunning ▸ hrun) hb

lemma Serves.releaseOne {h : Hub} {b : Address} {stream : StreamId} (hserves : h.Serves b stream)
    (a : Address) : (h.releaseOne a).Serves b stream := by
  obtain ⟨j, o, hb, ho, hlistens⟩ := hserves
  refine ⟨j, if h.lookup? a = some j then o.letGo else o, ?_, ?_, ?_⟩
  · exact lookup?_releaseOne_of_heard hb ho (List.ne_nil_of_mem hlistens)
  · rw [observer?_releaseOne, ho]
    split_ifs <;> rfl
  · split_ifs
    · rwa [Observer.letGo_listeners]
    · exact hlistens

/-! ### Starting -/

lemma Invariant.setRunning {h : Hub} (hi : h.Invariant) : h.setRunning.Invariant where
  found := hi.found
  complete := hi.complete
  numbered := hi.numbered
  heard := hi.heard
  unstarted hrunning := by cases hrunning
  startedOnce := hi.startedOnce
  mem_started := hi.mem_started
  unstopped := hi.unstopped
  stopped := hi.stopped

lemma observer?_startObserver_eq_some {h : Hub} {id j : ObserverId} {o' : Observer}
    (ho' : (h.startObserver id).observer? j = some o') :
    ∃ o, h.observer? j = some o ∧ o' = { o with isStarted := o.isStarted || decide (id = j) } := by
  rw [observer?_startObserver] at ho'
  split_ifs at ho' with hj
  · obtain ⟨o, ho, rfl⟩ := Option.map_eq_some_iff.mp ho'
    exact ⟨o, ho, by simp [hj]⟩
  · exact ⟨o', ho', by simp [hj]⟩

/-- The list of started sources stays true, and names none of them twice. -/
lemma started_startObserver_agrees {h : Hub} (hnodup : h.started.Nodup)
    (hmem : ∀ {j}, j ∈ h.started ↔ ∃ o, h.observer? j = some o ∧ o.isStarted = true)
    (id : ObserverId) :
    (h.startObserver id).started.Nodup ∧
      ∀ {j}, j ∈ (h.startObserver id).started ↔
        ∃ o, (h.startObserver id).observer? j = some o ∧ o.isStarted = true := by
  constructor
  · rw [started_startObserver]
    split_ifs with hnew
    · obtain ⟨o, ho, hstarted⟩ := hnew
      rw [← List.concat_eq_append]
      exact hnodup.concat (by simp [hmem, ho, hstarted])
    · exact hnodup
  · intro j
    rw [started_startObserver, observer?_startObserver]
    by_cases hj : id = j
    · subst hj
      rcases ho : h.observer? id with _ | o
      · simp [hmem, ho]
      · rcases hstarted : o.isStarted with _ | _ <;> simp [ho, hstarted, hmem]
    · have hrest : j ∈ h.started ++ [id] ↔ j ∈ h.started := by simp [Ne.symm hj]
      rw [if_neg hj, ← hmem]
      split_ifs
      · exact hrest
      · rfl

lemma Invariant.startObserver {h : Hub} (hi : h.Invariant) (hrunning : h.isRunning = true)
    {id : ObserverId} {b : Address} (hb : h.lookup? b = some id) :
    (h.startObserver id).Invariant := by
  obtain ⟨hrun, -, hstream, -⟩ := h.startObserver_rest id
  obtain ⟨o, ho, rfl⟩ := hi.found hb
  constructor
  case found =>
    intro a j hj
    rw [lookup?_startObserver] at hj
    obtain ⟨o', ho', rfl⟩ := hi.found hj
    rw [observer?_startObserver, ho']
    split_ifs
    · exact ⟨_, rfl, rfl⟩
    · exact ⟨o', rfl, rfl⟩
  case complete =>
    intro j o' ho'
    obtain ⟨o₀, ho₀, rfl⟩ := observer?_startObserver_eq_some ho'
    exact hi.complete (o := o₀) ho₀
  case numbered =>
    intro j o' ho'
    obtain ⟨o₀, ho₀, rfl⟩ := observer?_startObserver_eq_some ho'
    rw [hstream]
    exact hi.numbered (o := o₀) ho₀
  case heard =>
    intro j o' ho'
    obtain ⟨o₀, ho₀, rfl⟩ := observer?_startObserver_eq_some ho'
    rw [lookup?_startObserver]
    exact hi.heard (o := o₀) ho₀
  case unstarted =>
    rw [hrun, hrunning]
    intro hfalse
    cases hfalse
  case startedOnce => exact (started_startObserver_agrees hi.startedOnce hi.mem_started id).1
  case mem_started => exact (started_startObserver_agrees hi.startedOnce hi.mem_started id).2
  case unstopped =>
    intro j o' ho' hstarted hstopped
    obtain ⟨o₀, ho₀, rfl⟩ := observer?_startObserver_eq_some ho'
    rw [lookup?_startObserver]
    by_cases hj : id = j
    · subst hj
      rw [ho] at ho₀
      cases ho₀
      exact hb
    · exact hi.unstopped (o := o₀) ho₀ (by simpa [hj] using hstarted) hstopped
  case stopped =>
    intro j o' ho' hstopped
    obtain ⟨o₀, ho₀, rfl⟩ := observer?_startObserver_eq_some ho'
    simp [hi.stopped (o := o₀) ho₀ hstopped]

lemma Serves.startObserver {h : Hub} {b : Address} {stream : StreamId}
    (hserves : h.Serves b stream) (id : ObserverId) : (h.startObserver id).Serves b stream := by
  obtain ⟨j, o, hb, ho, hlistens⟩ := hserves
  refine ⟨j, if id = j then { o with isStarted := true } else o, ?_, ?_, ?_⟩
  · rw [lookup?_startObserver, hb]
  · rw [observer?_startObserver, ho]
    split_ifs <;> rfl
  · split_ifs <;> exact hlistens

lemma mem_started_startObserver {h : Hub} (hi : h.Invariant) {id : ObserverId} {b : Address}
    (hb : h.lookup? b = some id) : id ∈ (h.startObserver id).started := by
  obtain ⟨o, ho, -⟩ := hi.found hb
  rw [started_startObserver]
  split_ifs with hnew
  · simp
  · rw [hi.mem_started]
    exact ⟨o, ho, by simpa [ho] using hnew⟩

/-- Starting observers of the directory one after the other. -/
lemma Invariant.startObservers {h : Hub} (hi : h.Invariant) (hrunning : h.isRunning = true)
    {ids : List ObserverId} (hids : ∀ id ∈ ids, ∃ b, h.lookup? b = some id) :
    (ids.foldl Hub.startObserver h).Invariant ∧
      ∀ id, id ∈ ids ∨ id ∈ h.started → id ∈ (ids.foldl Hub.startObserver h).started := by
  induction ids generalizing h with
  | nil => exact ⟨hi, fun id hid => by simpa using hid⟩
  | cons first ids ih =>
    obtain ⟨b, hb⟩ := hids first (by simp)
    have hids' : ∀ id ∈ ids, ∃ b, (h.startObserver first).lookup? b = some id := fun id hid => by
      simpa using hids id (by simp [hid])
    obtain ⟨hinv, hstarted⟩ := ih (hi.startObserver hrunning hb)
      ((h.startObserver_rest first).1.trans hrunning) hids'
    refine ⟨hinv, fun id hid => hstarted id ?_⟩
    rcases hid with hid | hid
    · rcases List.mem_cons.mp hid with rfl | hid
      · exact .inr (mem_started_startObserver hi hb)
      · exact .inl hid
    · right
      rw [started_startObserver]
      split_ifs
      · exact List.mem_append_left _ hid
      · exact hid

lemma Invariant.start {h : Hub} (hi : h.Invariant) : h.start.Invariant ∧ h.start.AllStarted := by
  have hvalues : ∀ id ∈ h.directory.values, ∃ b, h.setRunning.lookup? b = some id :=
    fun id hid => (h.directory.mem_values).mp hid
  obtain ⟨hinv, hstarted⟩ := hi.setRunning.startObservers rfl hvalues
  refine ⟨hinv, fun _ b id hb => hstarted id (.inl ?_)⟩
  rw [Hub.start, lookup?_foldl_startObserver] at hb
  exact (h.directory.mem_values).mpr ⟨b, hb⟩

/-- What holds of a running hub and is kept by starting one observer holds after the start. -/
lemma start_induction {P : Hub → Prop} {h : Hub} (hinit : P h.setRunning)
    (hstep : ∀ h id, P h → P (h.startObserver id)) : P h.start :=
  List.foldlRecOn _ _ hinit fun h hh id _ => hstep h id hh

lemma Serves.start {h : Hub} {b : Address} {stream : StreamId} (hserves : h.Serves b stream) :
    h.start.Serves b stream :=
  start_induction (P := fun h => h.Serves b stream) hserves fun _ id hs => hs.startObserver id

lemma isRunning_start (h : Hub) : h.start.isRunning = true :=
  start_induction (P := fun h => h.isRunning = true) rfl fun h id hrunning =>
    (h.startObserver_rest id).1.trans hrunning

lemma isCancelled_start (h : Hub) : h.start.isCancelled = h.isCancelled :=
  start_induction (P := fun h' => h'.isCancelled = h.isCancelled) rfl fun h' id hsame =>
    (h'.startObserver_rest id).2.1.trans hsame

/-! ### Lines and receivers -/

/-- Something that happens at every observer and concerns only the lines, and the streams that are
lost. -/
lemma Invariant.mapObservers {h : Hub} (hi : h.Invariant) {f : Observer → Observer}
    {lost : List StreamId} (hf : ∀ o, Observer.Loses lost o (f o)) :
    Invariant { h with observers := h.observers.map f } := by
  have hobserver : ∀ {id o'}, Hub.observer? { h with observers := h.observers.map f } id = some o' →
      ∃ o, h.observer? id = some o ∧ o' = f o := by
    intro id o' ho'
    rw [observer?_mapObservers] at ho'
    obtain ⟨o, ho, rfl⟩ := Option.map_eq_some_iff.mp ho'
    exact ⟨o, ho, rfl⟩
  constructor
  case found =>
    intro a id hfound
    obtain ⟨o, ho, rfl⟩ := hi.found hfound
    exact ⟨f o, by rw [observer?_mapObservers, ho]; rfl, (hf o).address_eq⟩
  case complete =>
    intro id o' ho'
    obtain ⟨o, ho, rfl⟩ := hobserver ho'
    rw [(hf o).address_eq]
    exact hi.complete ho
  case numbered =>
    intro id o' ho' stream hlistens
    obtain ⟨o, ho, rfl⟩ := hobserver ho'
    rw [(hf o).listeners_eq] at hlistens
    exact hi.numbered ho stream (List.mem_of_mem_filter hlistens)
  case heard =>
    intro id o' ho' hheard
    obtain ⟨o, ho, rfl⟩ := hobserver ho'
    rw [(hf o).address_eq]
    rw [(hf o).listeners_eq] at hheard
    refine hi.heard ho fun hnobody => hheard ?_
    rw [hnobody, List.filter_nil]
  case unstarted => exact hi.unstarted
  case startedOnce => exact hi.startedOnce
  case mem_started =>
    intro id
    rw [observer?_mapObservers]
    refine hi.mem_started.trans ?_
    simp [(hf _).isStarted_eq]
  case unstopped =>
    intro id o' ho' hstarted hstopped
    obtain ⟨o, ho, rfl⟩ := hobserver ho'
    rw [(hf o).address_eq]
    exact hi.unstopped ho ((hf o).isStarted_eq ▸ hstarted) ((hf o).isStopped_eq ▸ hstopped)
  case stopped =>
    intro id o' ho' hstopped
    obtain ⟨o, ho, rfl⟩ := hobserver ho'
    rw [(hf o).isStarted_eq]
    exact hi.stopped ho ((hf o).isStopped_eq ▸ hstopped)

lemma Serves.mapObservers {h : Hub} {b : Address} {stream : StreamId} (hserves : h.Serves b stream)
    {f : Observer → Observer} {lost : List StreamId} (hf : ∀ o, Observer.Loses lost o (f o))
    (hlost : stream ∉ lost) : Serves { h with observers := h.observers.map f } b stream := by
  obtain ⟨id, o, hb, ho, hlistens⟩ := hserves
  refine ⟨id, f o, hb, by rw [observer?_mapObservers, ho]; rfl, ?_⟩
  rw [(hf o).listeners_eq]
  exact List.mem_filter.mpr ⟨hlistens, by simpa using hlost⟩

lemma Invariant.cancel {h : Hub} (hi : h.Invariant) : h.cancel.Invariant where
  found := hi.found
  complete := hi.complete
  numbered := hi.numbered
  heard := hi.heard
  unstarted := hi.unstarted
  startedOnce := hi.startedOnce
  mem_started := hi.mem_started
  unstopped := hi.unstopped
  stopped := hi.stopped

end Hub

end NodeWatch
