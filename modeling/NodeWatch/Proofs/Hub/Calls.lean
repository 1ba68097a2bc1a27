import NodeWatch.Proofs.Hub.Invariant

/-!
# Calls that overlap

Subscribing, releasing and starting take several steps, and other calls go on between any two of
them. If none do, a call is the operation of the hub as a whole (`moveAll_subscribe`,
`moveAll_release`, `moveAll_start`).

What a call relies on is that the others keep the streams they do not own, never bring an observer
back into the directory, and never take a start back (`Keeps`). Every step of every call does this
(`respects_of_steps`).
-/

namespace NodeWatch.Hub

open Files Resource

/-- How far a call has come. -/
inductive Call where
  /-- A subscription is about to find or make the observer of an address. -/
  | finding (a : Address)
  /-- It is about to enter a stream at the observer. -/
  | entering (a : Address) (id : ObserverId)
  /-- It is about to start the observer if the hub runs. The stream was entered in time if the
  directory still led to the observer at that moment. -/
  | joined (a : Address) (id : ObserverId) (stream : StreamId) (inTime : Bool)
  /-- It has returned a stream, whose receiver is alive. -/
  | subscribed (a : Address) (stream : StreamId) (inTime : Bool)
  /-- A release is about to take the observers of addresses out of the directory, one by one. -/
  | releasing (addresses : List Address)
  /-- It is about to stop an observer that it has taken out. -/
  | stopping (id : ObserverId) (addresses : List Address)
  /-- A start is about to set the hub running. -/
  | starting
  /-- It visits the directory. The observers numbered below the bound were made before. -/
  | visiting (bound : ObserverId) (visited : List ObserverId)
  /-- It has returned, and nothing is left of it. -/
  | done
  deriving DecidableEq

/-- How a call goes on. -/
inductive Move where
  | advance
  /-- A start comes to an address of the directory. The order is not fixed, and what changes in the
  meantime may be seen or not. -/
  | visit (a : Address)
  /-- The receiver of a returned stream goes away. -/
  | leave

namespace Call

def hasReturned : Call → Bool
  | subscribed .. | done => true
  | _ => false

/-- The stream of a call. -/
def stream? : Call → Option StreamId
  | joined _ _ stream _ | subscribed _ stream _ => some stream
  | _ => none

/-- Takes the next step, if there is one. A start returns when it has visited all observers that
were there before and still are. -/
def advance (h : Hub) : Call → Option (Call × Hub)
  | finding a => match h.findOrMake a with
    | .error _ => some (done, h)
    | .ok (id, h) => some (entering a id, h)
  | entering a id =>
    let (stream, h') := h.enter id
    some (joined a id stream (h.lookup? a = some id), h')
  | joined a id stream inTime => some (subscribed a stream inTime, h.startIfRunning id)
  | releasing [] => some (done, h)
  | releasing (a :: addresses) => match h.removeIfIdle a with
    | (some id, h) => some (stopping id addresses, h)
    | (none, h) => some (releasing addresses, h)
  | stopping id addresses => some (releasing addresses, h.stopObserver id)
  | starting => some (visiting h.observers.length [], h.setRunning)
  | visiting bound visited =>
    if h.directory.values.all fun id => bound ≤ id || id ∈ visited then some (done, h) else none
  | subscribed .. | done => none

def move (h : Hub) (c : Call) : Move → Option (Call × Hub)
  | .advance => c.advance h
  | .visit a => match c with
    | visiting bound visited =>
      (h.lookup? a).map fun id => (visiting bound (id :: visited), h.startObserver id)
    | _ => none
  | .leave => match c with
    | subscribed _ stream _ => some (done, h.leave [stream])
    | _ => none

/-- What a call may count on between its steps. -/
def Sound (h : Hub) : Call → Prop
  | joined a _ stream inTime | subscribed a stream inTime => inTime = true → h.Serves a stream
  | stopping id _ => id < h.observers.length ∧ ∀ a, h.lookup? a ≠ some id
  | visiting _ visited => visited ⊆ h.started
  | _ => True

/-- Whether a call will start an observer of a running hub, or see that it was taken out. -/
def Owes (id : ObserverId) : Call → Prop
  | entering _ j | joined _ j _ _ => j = id
  | visiting bound visited => id < bound ∧ id ∉ visited
  | _ => False

end Call

/-- The steps that calls can take. -/
inductive Steps : Hub → Call → Call → Hub → Prop
  | refuse {h : Hub} {a : Address} {e : SubscribeError} (hf : h.findOrMake a = .error e) :
    Steps h (.finding a) .done h
  | find {h h' : Hub} {a : Address} {id : ObserverId} (hf : h.findOrMake a = .ok (id, h')) :
    Steps h (.finding a) (.entering a id) h'
  | enter {h : Hub} {a : Address} {id : ObserverId} :
    Steps h (.entering a id) (.joined a id h.nextStream (h.lookup? a = some id)) (h.enter id).2
  | join {h : Hub} {a : Address} {id : ObserverId} {stream : StreamId} {inTime : Bool} :
    Steps h (.joined a id stream inTime) (.subscribed a stream inTime) (h.startIfRunning id)
  | leave {h : Hub} {a : Address} {stream : StreamId} {inTime : Bool} :
    Steps h (.subscribed a stream inTime) .done (h.leave [stream])
  | released {h : Hub} : Steps h (.releasing []) .done h
  | spare {h h' : Hub} {a : Address} {addresses : List Address}
    (hr : h.removeIfIdle a = (none, h')) :
    Steps h (.releasing (a :: addresses)) (.releasing addresses) h'
  | remove {h h' : Hub} {a : Address} {id : ObserverId} {addresses : List Address}
    (hr : h.removeIfIdle a = (some id, h')) :
    Steps h (.releasing (a :: addresses)) (.stopping id addresses) h'
  | stop {h : Hub} {id : ObserverId} {addresses : List Address} :
    Steps h (.stopping id addresses) (.releasing addresses) (h.stopObserver id)
  | run {h : Hub} : Steps h .starting (.visiting h.observers.length []) h.setRunning
  | visit {h : Hub} {a : Address} {id bound : ObserverId} {visited : List ObserverId}
    (hfound : h.lookup? a = some id) :
    Steps h (.visiting bound visited) (.visiting bound (id :: visited)) (h.startObserver id)
  | finish {h : Hub} {bound : ObserverId} {visited : List ObserverId}
    (hall : ∀ id ∈ h.directory.values, bound ≤ id ∨ id ∈ visited) :
    Steps h (.visiting bound visited) .done h

lemma steps_of_move {h h' : Hub} {c c' : Call} {m : Move}
    (hmove : c.move h m = some (c', h')) : Steps h c c' h' := by
  cases m with
  | advance =>
    cases c with
    | finding a =>
      rcases hf : h.findOrMake a with e | ⟨id, h₁⟩ <;>
        simp only [Call.move, Call.advance, hf, Option.some.injEq, Prod.mk.injEq] at hmove <;>
        obtain ⟨rfl, rfl⟩ := hmove
      · exact .refuse hf
      · exact .find hf
    | entering a id =>
      cases hmove
      exact .enter
    | joined a id stream inTime =>
      cases hmove
      exact .join
    | releasing addresses =>
      rcases addresses with _ | ⟨a, addresses⟩
      · cases hmove
        exact .released
      · rcases hr : h.removeIfIdle a with ⟨_ | id, h₁⟩ <;>
          simp only [Call.move, Call.advance, hr, Option.some.injEq, Prod.mk.injEq] at hmove <;>
          obtain ⟨rfl, rfl⟩ := hmove
        · exact .spare hr
        · exact .remove hr
    | stopping id addresses =>
      cases hmove
      exact .stop
    | starting =>
      cases hmove
      exact .run
    | visiting bound visited =>
      rw [Call.move, Call.advance] at hmove
      split_ifs at hmove with hall
      cases hmove
      exact .finish (by simpa using hall)
    | subscribed | done => cases hmove
  | visit a =>
    cases c with
    | visiting bound visited =>
      obtain ⟨id, hfound, hmove⟩ := Option.map_eq_some_iff.mp hmove
      cases hmove
      exact .visit hfound
    | finding | entering | joined | subscribed | releasing | stopping | starting | done =>
      cases hmove
  | leave =>
    cases c with
    | subscribed a stream inTime =>
      cases hmove
      exact .leave
    | finding | entering | joined | visiting | releasing | stopping | starting | done =>
      cases hmove

/-- One move after the other, with nothing between them. -/
def Call.moveAll (h : Hub) (c : Call) : List Move → Option (Call × Hub)
  | [] => some (c, h)
  | m :: moves => (c.move h m).bind fun (c, h) => c.moveAll h moves

lemma Call.moveAll_append (h : Hub) (c : Call) (moves more : List Move) :
    c.moveAll h (moves ++ more) = (c.moveAll h moves).bind fun (c, h) => c.moveAll h more := by
  induction moves generalizing h c with
  | nil => rfl
  | cons m moves ih => simp [moveAll, ih, Option.bind_assoc]

/-- A subscription on its own is that of the hub, and enters its stream in time. -/
theorem moveAll_subscribe (h : Hub) (a : Address) :
    ∃ moves, (Call.finding a).moveAll h moves = some (match h.subscribe a with
      | .error _ => (.done, h)
      | .ok (stream, h') => (.subscribed a stream true, h')) := by
  rcases hf : h.findOrMake a with e | ⟨id, h₁⟩
  · refine ⟨[.advance], ?_⟩
    simp [Call.moveAll, Call.move, Call.advance, subscribe, hf, bind, Except.bind]
  · have hfound : h₁.lookup? a = some id := by
      rcases findOrMake_cases hf with ⟨hfound, rfl⟩ | ⟨-, -, rfl, source, rfl⟩
      · exact hfound
      · exact (lookup?_make h a source a).trans (if_pos rfl)
    refine ⟨[.advance, .advance, .advance], ?_⟩
    simp [Call.moveAll, Call.move, Call.advance, subscribe, hf, hfound, bind, Except.bind, pure,
      Except.pure]

/-- A release on its own is that of the hub. -/
theorem moveAll_release (h : Hub) (addresses : List Address) :
    ∃ moves, (Call.releasing addresses).moveAll h moves = some (.done, h.release addresses) := by
  induction addresses generalizing h with
  | nil => exact ⟨[.advance], rfl⟩
  | cons a addresses ih =>
    obtain ⟨moves, hmoves⟩ := ih (h.releaseOne a)
    rcases hr : h.removeIfIdle a with ⟨_ | id, h₁⟩
    · refine ⟨.advance :: moves, ?_⟩
      simp only [releaseOne, hr] at hmoves
      simpa [Call.moveAll, Call.move, Call.advance, release, releaseOne, hr] using hmoves
    · refine ⟨.advance :: .advance :: moves, ?_⟩
      simp only [releaseOne, hr] at hmoves
      simpa [Call.moveAll, Call.move, Call.advance, release, releaseOne, hr] using hmoves

lemma moveAll_visit {entries : List (Address × ObserverId)} {h : Hub}
    (hentries : ∀ p ∈ entries, h.lookup? p.1 = some p.2) (bound : ObserverId)
    (visited : List ObserverId) :
    (Call.visiting bound visited).moveAll h (entries.map fun p => .visit p.1) =
      some (.visiting bound ((entries.map Prod.snd).reverse ++ visited),
        (entries.map Prod.snd).foldl startObserver h) := by
  induction entries generalizing h visited with
  | nil => rfl
  | cons p entries ih =>
    obtain ⟨hp, hrest⟩ := List.forall_mem_cons.mp hentries
    have hlater := ih (h := h.startObserver p.2) (fun q hq => by simpa using hrest q hq)
      (p.2 :: visited)
    simpa [Call.moveAll, Call.move, hp] using hlater

/-- A start on its own that visits the directory in its order is that of the hub. -/
theorem moveAll_start (h : Hub) :
    ∃ moves, Call.starting.moveAll h moves = some (.done, h.start) := by
  have hentries : ∀ p ∈ h.directory.entries, h.setRunning.lookup? p.1 = some p.2 := fun p hp =>
    h.directory.get?_eq_some_iff.mpr hp
  have hvisit := moveAll_visit hentries h.observers.length []
  have hall : ∀ id ∈ h.start.directory.values, id ∈ h.directory.values.reverse ++ [] := by
    intro id hid
    obtain ⟨a, ha⟩ := h.start.directory.mem_values.mp hid
    rw [List.append_nil, List.mem_reverse]
    refine h.directory.mem_values.mpr ⟨a, ?_⟩
    exact (lookup?_foldl_startObserver h.setRunning h.directory.values a).symm.trans ha
  have hlast : (Call.visiting h.observers.length (h.directory.values.reverse ++ [])).moveAll
      h.start [.advance] = some (.done, h.start) := by
    have hreturns : (h.start.directory.values.all fun id => h.observers.length ≤ id ||
        id ∈ h.directory.values.reverse ++ []) = true := by
      refine List.all_eq_true.mpr fun id hid => ?_
      rw [decide_eq_true (hall id hid), Bool.or_true]
    rw [Call.moveAll, Call.move, Call.advance, if_pos hreturns]
    rfl
  refine ⟨.advance :: ((h.directory.entries.map fun p => .visit p.1) ++ [.advance]), ?_⟩
  show (Call.visiting h.observers.length []).moveAll h.setRunning _ = _
  rw [Call.moveAll_append, hvisit]
  exact hlast

/-! ### What holds between steps -/

/-- What holds of a hub between any two steps of any calls. -/
structure Coherent (h : Hub) : Prop where
  found : ∀ {a id}, h.lookup? a = some id → ∃ o, h.observer? id = some o ∧ o.address = a
  numbered : ∀ {id o}, h.observer? id = some o →
    ∀ stream ∈ o.broadcaster.listeners, stream < h.nextStream
  startedOnce : h.started.Nodup
  mem_started : ∀ {id}, id ∈ h.started ↔ ∃ o, h.observer? id = some o ∧ o.isStarted = true
  /-- An observer of the directory has not been stopped. -/
  unstopped : ∀ {a id o}, h.lookup? a = some id → h.observer? id = some o → o.isStopped = false

/-- What the others see of a step of a call. -/
structure Keeps (own : Option StreamId) (h h' : Hub) : Prop where
  serves : ∀ {a stream}, own ≠ some stream → h.Serves a stream → h'.Serves a stream
  notAgain : ∀ {a id}, id < h.observers.length → h'.lookup? a = some id → h.lookup? a = some id
  started : h.started ⊆ h'.started
  running : h.isRunning = true → h'.isRunning = true
  nextStream_le : h.nextStream ≤ h'.nextStream
  length_le : h.observers.length ≤ h'.observers.length

variable {own : Option StreamId} {h h' h'' : Hub} {a : Address} {id : ObserverId}

lemma Coherent.new (root : Rootfs) : (Hub.new root).Coherent where
  found h := by cases h
  numbered h := by simp [observer?, Hub.new] at h
  startedOnce := List.nodup_nil
  mem_started := by simp [observer?, Hub.new]
  unstopped h := by cases h

lemma Coherent.lt_length (hi : h.Coherent) (hfound : h.lookup? a = some id) :
    id < h.observers.length := by
  obtain ⟨o, ho, -⟩ := hi.found hfound
  exact observer?_eq_some_lt ho

/-- No two addresses lead to one observer. -/
lemma Coherent.address_inj (hi : h.Coherent) {b : Address} (ha : h.lookup? a = some id)
    (hb : h.lookup? b = some id) : b = a := by
  obtain ⟨o, ho, rfl⟩ := hi.found ha
  obtain ⟨o', ho', rfl⟩ := hi.found hb
  rw [ho] at ho'
  cases ho'
  rfl

lemma Keeps.refl (own : Option StreamId) (h : Hub) : Keeps own h h where
  serves _ hserves := hserves
  notAgain _ hfound := hfound
  started := List.Subset.refl _
  running hrunning := hrunning
  nextStream_le := Nat.le_refl _
  length_le := Nat.le_refl _

lemma Keeps.trans (hk : Keeps own h h') (hk' : Keeps own h' h'') : Keeps own h h'' where
  serves hown hserves := hk'.serves hown (hk.serves hown hserves)
  notAgain hlt hfound := hk.notAgain hlt (hk'.notAgain (Nat.lt_of_lt_of_le hlt hk.length_le) hfound)
  started := List.Subset.trans hk.started hk'.started
  running hrunning := hk'.running (hk.running hrunning)
  nextStream_le := Nat.le_trans hk.nextStream_le hk'.nextStream_le
  length_le := Nat.le_trans hk.length_le hk'.length_le

/-- What a call counts on stays when another call takes a step. -/
lemma Call.Sound.keeps {c : Call} (hs : c.Sound h) (hk : Keeps own h h')
    (hown : ∀ stream, c.stream? = some stream → own ≠ some stream) : c.Sound h' := by
  cases c with
  | joined a id stream inTime | subscribed a stream inTime =>
    exact fun htime => hk.serves (hown stream rfl) (hs htime)
  | stopping id addresses =>
    exact ⟨Nat.lt_of_lt_of_le hs.1 hk.length_le, fun a hfound => hs.2 a (hk.notAgain hs.1 hfound)⟩
  | visiting bound visited => exact List.Subset.trans hs hk.started
  | finding | entering | releasing | starting | done => trivial

/-- Nothing has changed but the observers, each of them on its own. -/
structure Adjusts (own : Option StreamId) (f : ObserverId → Observer → Observer) (h h' : Hub) :
    Prop where
  observer?_eq : ∀ j, h'.observer? j = (h.observer? j).map (f j)
  address_eq : ∀ j o, (f j o).address = o.address
  isStarted_eq : ∀ j o, (f j o).isStarted = o.isStarted
  isStopped_eq : ∀ j o, (∃ a, h.lookup? a = some j) → (f j o).isStopped = o.isStopped
  stays : ∀ j o stream, own ≠ some stream → stream ∈ o.broadcaster.listeners →
    stream ∈ (f j o).broadcaster.listeners
  numbered : ∀ j o, ∀ stream ∈ (f j o).broadcaster.listeners,
    stream ∈ o.broadcaster.listeners ∨ stream < h'.nextStream
  lookup?_eq : ∀ a, h'.lookup? a = h.lookup? a
  started_eq : h'.started = h.started
  isRunning_eq : h'.isRunning = h.isRunning
  isCancelled_eq : h'.isCancelled = h.isCancelled
  nextStream_le : h.nextStream ≤ h'.nextStream
  length_eq : h'.observers.length = h.observers.length

section Adjusts

variable {f : ObserverId → Observer → Observer}

lemma Adjusts.refl (own : Option StreamId) (h : Hub) : Adjusts own (fun _ o => o) h h where
  observer?_eq _ := by simp
  address_eq _ _ := rfl
  isStarted_eq _ _ := rfl
  isStopped_eq _ _ _ := rfl
  stays _ _ _ _ hlistens := hlistens
  numbered _ _ _ hlistens := .inl hlistens
  lookup?_eq _ := rfl
  started_eq := rfl
  isRunning_eq := rfl
  isCancelled_eq := rfl
  nextStream_le := Nat.le_refl _
  length_eq := rfl

lemma Adjusts.coherent (hi : h.Coherent) (ha : Adjusts own f h h') : h'.Coherent where
  found hfound := by
    rw [ha.lookup?_eq] at hfound
    obtain ⟨o, ho, rfl⟩ := hi.found hfound
    exact ⟨f _ o, by rw [ha.observer?_eq, ho]; rfl, ha.address_eq _ o⟩
  numbered ho' stream hlistens := by
    rw [ha.observer?_eq] at ho'
    obtain ⟨o, ho, rfl⟩ := Option.map_eq_some_iff.mp ho'
    rcases ha.numbered _ o stream hlistens with hold | hnew
    · exact Nat.lt_of_lt_of_le (hi.numbered ho stream hold) ha.nextStream_le
    · exact hnew
  startedOnce := ha.started_eq ▸ hi.startedOnce
  mem_started := by
    intro j
    rw [ha.started_eq, hi.mem_started, ha.observer?_eq]
    simp [ha.isStarted_eq]
  unstopped hfound ho' := by
    rw [ha.lookup?_eq] at hfound
    rw [ha.observer?_eq] at ho'
    obtain ⟨o, ho, rfl⟩ := Option.map_eq_some_iff.mp ho'
    rw [ha.isStopped_eq _ o ⟨_, hfound⟩]
    exact hi.unstopped hfound ho

lemma Adjusts.keeps (ha : Adjusts own f h h') : Keeps own h h' where
  serves hown hserves := by
    obtain ⟨j, o, hfound, ho, hlistens⟩ := hserves
    refine ⟨j, f j o, by rw [ha.lookup?_eq, hfound], by rw [ha.observer?_eq, ho]; rfl, ?_⟩
    exact ha.stays j o _ hown hlistens
  notAgain _ hfound := by rwa [ha.lookup?_eq] at hfound
  started := by rw [ha.started_eq]; exact List.Subset.refl _
  running hrunning := ha.isRunning_eq.trans hrunning
  nextStream_le := ha.nextStream_le
  length_le := Nat.le_of_eq ha.length_eq.symm

end Adjusts

/-! ### Changes of the hub -/

/-- Making the observer of an address that has none. -/
lemma Coherent.make (hi : h.Coherent) (a : Address) (source : LineSource) :
    (h.make a source).Coherent := by
  have hold : ∀ {j}, j < h.observers.length → (h.make a source).observer? j = h.observer? j :=
    fun hlt => by rw [observer?_make, if_neg (Nat.ne_of_lt hlt)]
  constructor
  case found =>
    intro b j hfound
    rw [lookup?_make] at hfound
    split_ifs at hfound with hb
    · obtain rfl : h.observers.length = j := Option.some.inj hfound
      exact ⟨_, by rw [observer?_make, if_pos rfl], hb.symm⟩
    · rw [hold (hi.lt_length hfound)]
      exact hi.found hfound
  case numbered =>
    intro j o ho stream hlistens
    rw [observer?_make] at ho
    split_ifs at ho
    · cases ho
      simp at hlistens
    · exact hi.numbered ho stream hlistens
  case startedOnce => exact hi.startedOnce
  case mem_started =>
    intro j
    rw [observer?_make]
    split_ifs with hj
    · have hnone : h.observer? j = none := List.getElem?_eq_none (Nat.le_of_eq hj.symm)
      have hnot : j ∉ h.started := by simp [hi.mem_started, hnone]
      exact iff_of_false hnot (by simp)
    · exact hi.mem_started
  case unstopped =>
    intro b j o hfound ho
    rw [lookup?_make] at hfound
    rw [observer?_make] at ho
    split_ifs at hfound ho with hb hj hj
    · cases ho
      rfl
    · exact absurd (Option.some.inj hfound).symm hj
    · cases ho
      rfl
    · exact hi.unstopped hfound ho

lemma Keeps.make (hi : h.Coherent) (hnone : h.lookup? a = none) (source : LineSource) :
    Keeps own h (h.make a source) where
  serves _ hserves := by
    obtain ⟨j, o, hfound, ho, hlistens⟩ := hserves
    refine ⟨j, o, ?_, ?_, hlistens⟩
    · rw [lookup?_make, if_neg, hfound]
      rintro rfl
      rw [hnone] at hfound
      cases hfound
    · rw [observer?_make, if_neg (Nat.ne_of_lt (hi.lt_length hfound)), ho]
  notAgain hlt hfound := by
    rw [lookup?_make] at hfound
    split_ifs at hfound
    · exact absurd (Option.some.inj hfound) (Nat.ne_of_gt hlt)
    · exact hfound
  started := List.Subset.refl _
  running hrunning := hrunning
  nextStream_le := Nat.le_refl _
  length_le := h.length_le_make a source

/-- Entering a stream. -/
lemma adjusts_enter (own : Option StreamId) (h : Hub) (id : ObserverId) :
    Adjusts own (fun j o => if id = j then
      { o with broadcaster := o.broadcaster.subscribe h.nextStream streamCapacity } else o)
      h (h.enter id).2 where
  observer?_eq j := by
    rw [observer?_enter]
    split_ifs <;> simp
  address_eq j o := by split_ifs <;> rfl
  isStarted_eq j o := by split_ifs <;> rfl
  isStopped_eq j o _ := by split_ifs <;> rfl
  stays j o stream _ hlistens := by
    split_ifs
    · simp [hlistens]
    · exact hlistens
  numbered j o stream hlistens := by
    have hnext : (h.enter id).2.nextStream = h.nextStream + 1 := rfl
    split_ifs at hlistens
    · rw [Broadcaster.listeners_subscribe, List.mem_append, List.mem_singleton] at hlistens
      rw [hnext]
      exact hlistens.imp_right fun hnew => Nat.lt_succ_of_le (Nat.le_of_eq hnew)
    · exact .inl hlistens
  lookup?_eq _ := rfl
  started_eq := rfl
  isRunning_eq := rfl
  isCancelled_eq := rfl
  nextStream_le := Nat.le_succ _
  length_eq := by simp [enter, modify]

/-- Changing one observer without taking a stream from it. -/
lemma adjusts_modify (own : Option StreamId) (h : Hub) (id : ObserverId)
    {f : Observer → Observer}
    (haddress : ∀ o, (f o).address = o.address) (hstarted : ∀ o, (f o).isStarted = o.isStarted)
    (hstopped : ∀ o, (∃ a, h.lookup? a = some id) → (f o).isStopped = o.isStopped)
    (hlisteners : ∀ o, (f o).broadcaster.listeners = o.broadcaster.listeners) :
    Adjusts own (fun j o => if id = j then f o else o) h (h.modify id f) where
  observer?_eq j := by
    rw [observer?_modify]
    split_ifs <;> simp
  address_eq j o := by
    split_ifs
    · exact haddress o
    · rfl
  isStarted_eq j o := by
    split_ifs
    · exact hstarted o
    · rfl
  isStopped_eq j o hfound := by
    split_ifs with hj
    · exact hstopped o (hj ▸ hfound)
    · rfl
  stays j o stream _ hlistens := by
    split_ifs
    · rwa [hlisteners]
    · exact hlistens
  numbered j o stream hlistens := by
    split_ifs at hlistens
    · rw [hlisteners] at hlistens
      exact .inl hlistens
    · exact .inl hlistens
  lookup?_eq _ := rfl
  started_eq := rfl
  isRunning_eq := rfl
  isCancelled_eq := rfl
  nextStream_le := Nat.le_refl _
  length_eq := by simp [modify]

lemma adjusts_stopObserver (own : Option StreamId) (hgone : ∀ a, h.lookup? a ≠ some id) :
    Adjusts own (fun j o => if id = j then
      if o.isStarted then { o with isStopped := true } else o else o) h (h.stopObserver id) :=
  adjusts_modify own h id (fun o => by split_ifs <;> rfl) (fun o => by split_ifs <;> rfl)
    (fun o ⟨a, hfound⟩ => absurd hfound (hgone a)) (fun o => by split_ifs <;> rfl)

lemma adjusts_pruned (own : Option StreamId) (h : Hub) (id : ObserverId) :
    Adjusts own (fun j o => if id = j then o.pruned else o) h (h.modify id Observer.pruned) :=
  adjusts_modify own h id (fun _ => rfl) (fun _ => rfl) (fun _ _ => rfl)
    (fun o => o.broadcaster.listeners_prune)

lemma adjusts_leave (h : Hub) (stream : StreamId) :
    Adjusts (some stream) (fun _ o =>
      { o with broadcaster := [stream].foldl Broadcaster.leave o.broadcaster })
      h (h.leave [stream]) where
  observer?_eq j := observer?_mapObservers h _ j
  address_eq _ _ := rfl
  isStarted_eq _ _ := rfl
  isStopped_eq _ _ _ := rfl
  stays j o other hown hlistens := by
    rw [Broadcaster.listeners_foldl_leave]
    refine List.mem_filter.mpr ⟨hlistens, ?_⟩
    simpa using fun heq : other = stream => hown (congrArg some heq.symm)
  numbered j o other hlistens := by
    rw [Broadcaster.listeners_foldl_leave] at hlistens
    exact .inl (List.mem_of_mem_filter hlistens)
  lookup?_eq _ := rfl
  started_eq := rfl
  isRunning_eq := rfl
  isCancelled_eq := rfl
  nextStream_le := Nat.le_refl _
  length_eq := by simp [leave]

lemma Coherent.without (hi : h.Coherent) (a : Address) : (h.without a).Coherent where
  found hfound := hi.found (lookup?_of_without hfound)
  numbered := hi.numbered
  startedOnce := hi.startedOnce
  mem_started := hi.mem_started
  unstopped hfound := hi.unstopped (lookup?_of_without hfound)

/-- An observer that nobody listens to can go. -/
lemma Keeps.without (hunheard : ∀ stream, ¬ h.Serves a stream) : Keeps own h (h.without a) where
  serves _ hserves := by
    obtain ⟨j, o, hfound, ho, hlistens⟩ := hserves
    refine ⟨j, o, ?_, ho, hlistens⟩
    rw [lookup?_without, if_neg, hfound]
    rintro rfl
    exact hunheard _ ⟨j, o, hfound, ho, hlistens⟩
  notAgain _ hfound := lookup?_of_without hfound
  started := List.Subset.refl _
  running hrunning := hrunning
  nextStream_le := Nat.le_refl _
  length_le := Nat.le_refl _

lemma Coherent.startObserver (hi : h.Coherent) (id : ObserverId) :
    (h.startObserver id).Coherent := by
  constructor
  case found =>
    intro a j hfound
    rw [lookup?_startObserver] at hfound
    obtain ⟨o, ho, rfl⟩ := hi.found hfound
    rw [observer?_startObserver, ho]
    split_ifs
    · exact ⟨_, rfl, rfl⟩
    · exact ⟨o, rfl, rfl⟩
  case numbered =>
    intro j o' ho'
    obtain ⟨o, ho, rfl⟩ := observer?_startObserver_eq_some ho'
    rw [(h.startObserver_rest id).2.2.1]
    exact hi.numbered (o := o) ho
  case startedOnce => exact (started_startObserver_agrees hi.startedOnce hi.mem_started id).1
  case mem_started => exact (started_startObserver_agrees hi.startedOnce hi.mem_started id).2
  case unstopped =>
    intro a j o' hfound ho'
    rw [lookup?_startObserver] at hfound
    obtain ⟨o, ho, rfl⟩ := observer?_startObserver_eq_some ho'
    exact hi.unstopped (o := o) hfound ho

lemma Coherent.mem_started_startObserver (hi : h.Coherent) (hfound : h.lookup? a = some id) :
    id ∈ (h.startObserver id).started := by
  obtain ⟨o, ho, -⟩ := hi.found hfound
  refine (hi.startObserver id).mem_started.mpr ⟨{ o with isStarted := true }, ?_, rfl⟩
  rw [observer?_startObserver, if_pos rfl, ho]
  rfl

lemma Keeps.startObserver (h : Hub) (id : ObserverId) : Keeps own h (h.startObserver id) := by
  obtain ⟨hrunning, -, hstream, hlength⟩ := h.startObserver_rest id
  exact {
    serves := fun _ hserves => hserves.startObserver id
    notAgain := fun _ hfound => by rwa [lookup?_startObserver] at hfound
    started := by
      rw [started_startObserver]
      split_ifs
      · exact List.subset_append_left _ _
      · exact List.Subset.refl _
    running := fun h => hrunning.trans h
    nextStream_le := Nat.le_of_eq hstream.symm
    length_le := Nat.le_of_eq hlength.symm }

lemma Coherent.setRunning (hi : h.Coherent) : h.setRunning.Coherent where
  found := hi.found
  numbered := hi.numbered
  startedOnce := hi.startedOnce
  mem_started := hi.mem_started
  unstopped := hi.unstopped

lemma Keeps.setRunning (h : Hub) : Keeps own h h.setRunning where
  serves _ hserves := hserves
  notAgain _ hfound := hfound
  started := List.Subset.refl _
  running _ := rfl
  nextStream_le := Nat.le_refl _
  length_le := Nat.le_refl _

lemma Coherent.cancel (hi : h.Coherent) : h.cancel.Coherent where
  found := hi.found
  numbered := hi.numbered
  startedOnce := hi.startedOnce
  mem_started := hi.mem_started
  unstopped := hi.unstopped

lemma Keeps.cancel (own : Option StreamId) (h : Hub) : Keeps own h h.cancel where
  serves _ hserves := hserves
  notAgain _ hfound := hfound
  started := List.Subset.refl _
  running hrunning := hrunning
  nextStream_le := Nat.le_refl _
  length_le := Nat.le_refl _

/-! ### Steps of calls -/

/-- What a step of a call from `c` to `c'` does to the hub, and what is left of the call. -/
structure Respects (c c' : Call) (h h' : Hub) : Prop where
  keeps : Keeps c.stream? h h'
  coherent : h'.Coherent
  sound : c'.Sound h'
  /-- The stream that the call has now is new, or it had it before. -/
  stream : ∀ stream, c'.stream? = some stream →
    c.stream? = some stream ∨ (h.nextStream ≤ stream ∧ stream < h'.nextStream)
  /-- An observer that the call was to start has been started, or it is still to start it. -/
  owed : h'.isRunning = true → ∀ {a id}, h'.lookup? a = some id →
    id ∈ h'.started ∨ c'.Owes id ∨ (h.isRunning = true ∧ h.lookup? a = some id ∧ ¬ c.Owes id)
  isCancelled_eq : h'.isCancelled = h.isCancelled

variable {c c' : Call}

/-- A step after which the call has no stream; what it owed, it still owes or has done. -/
lemma Respects.of_keeps (hk : Keeps c.stream? h h') (hi' : h'.Coherent) (hs : c'.Sound h')
    (hnone : c'.stream? = none) (hrunning : h'.isRunning = h.isRunning)
    (hcancelled : h'.isCancelled = h.isCancelled)
    (hlookup : ∀ {a id}, h'.lookup? a = some id → h.lookup? a = some id)
    (howes : ∀ {a id}, h'.lookup? a = some id → c.Owes id → c'.Owes id ∨ id ∈ h'.started) :
    Respects c c' h h' where
  keeps := hk
  coherent := hi'
  sound := hs
  stream stream hstream := by
    rw [hnone] at hstream
    cases hstream
  owed hrun a id hfound := by
    by_cases hc : c.Owes id
    · exact (howes hfound hc).symm.imp_right .inl
    · exact .inr (.inr ⟨hrunning ▸ hrun, hlookup hfound, hc⟩)
  isCancelled_eq := hcancelled

/-- A step of a call that owes nothing, at which only observers change. -/
lemma Respects.of_adjusts {f : ObserverId → Observer → Observer} (hi : h.Coherent)
    (ha : Adjusts c.stream? f h h') (hs : c'.Sound h') (hnone : c'.stream? = none)
    (howes : ∀ id, ¬ c.Owes id) : Respects c c' h h' :=
  .of_keeps ha.keeps (ha.coherent hi) hs hnone ha.isRunning_eq ha.isCancelled_eq
    (fun hfound => by rwa [ha.lookup?_eq] at hfound) fun _ hc => absurd hc (howes _)

lemma respects_find (hi : h.Coherent) (hf : h.findOrMake a = .ok (id, h')) :
    Respects (.finding a) (.entering a id) h h' := by
  rcases findOrMake_cases hf with ⟨-, rfl⟩ | ⟨hnone, -, rfl, source, rfl⟩
  · exact .of_adjusts hi (.refl _ _) trivial rfl fun _ => not_false
  · exact {
      keeps := .make hi hnone source
      coherent := hi.make a source
      sound := trivial
      stream := nofun
      owed := fun hrun b j hfound => by
        rw [lookup?_make] at hfound
        split_ifs at hfound
        · exact .inr (.inl (Option.some.inj hfound))
        · exact .inr (.inr ⟨hrun, hfound, not_false⟩)
      isCancelled_eq := rfl }

lemma respects_enter (hi : h.Coherent) (a : Address) (id : ObserverId) :
    Respects (.entering a id) (.joined a id h.nextStream (h.lookup? a = some id)) h
      (h.enter id).2 where
  keeps := (adjusts_enter _ h id).keeps
  coherent := (adjusts_enter none h id).coherent hi
  sound htime := by
    have hfound : h.lookup? a = some id := of_decide_eq_true htime
    obtain ⟨o, ho, -⟩ := hi.found hfound
    exact ⟨id, _, hfound, by rw [observer?_enter, if_pos rfl, ho]; rfl, by simp⟩
  stream stream hstream := by
    cases hstream
    exact .inr ⟨Nat.le_refl _, Nat.lt_succ_self _⟩
  owed hrun b j hfound := by
    by_cases hj : id = j
    · exact .inr (.inl hj)
    · exact .inr (.inr ⟨hrun, hfound, hj⟩)
  isCancelled_eq := rfl

lemma respects_join (hi : h.Coherent) {stream : StreamId} {inTime : Bool}
    (hs : (Call.joined a id stream inTime).Sound h) :
    Respects (.joined a id stream inTime) (.subscribed a stream inTime) h
      (h.startIfRunning id) := by
  rw [startIfRunning]
  split_ifs with hrunning
  · exact {
      keeps := .startObserver h id
      coherent := hi.startObserver id
      sound := fun htime => (hs htime).startObserver id
      stream := fun _ => .inl
      owed := fun _ b j hfound => by
        rw [lookup?_startObserver] at hfound
        by_cases hj : id = j
        · subst hj
          exact .inl (hi.mem_started_startObserver hfound)
        · exact .inr (.inr ⟨hrunning, hfound, hj⟩)
      isCancelled_eq := (h.startObserver_rest id).2.1 }
  · exact {
      keeps := .refl _ _
      coherent := hi
      sound := hs
      stream := fun _ => .inl
      owed := fun hrun => absurd hrun hrunning
      isCancelled_eq := rfl }

lemma respects_release (hi : h.Coherent) {addresses : List Address} {gone? : Option ObserverId}
    (hr : h.removeIfIdle a = (gone?, h')) :
    Respects (.releasing (a :: addresses))
      (gone?.elim (.releasing addresses) (.stopping · addresses)) h h' := by
  rcases h.removeIfIdle_cases a with ⟨heq, -⟩ | ⟨id, o, hfound, ho, ⟨-, heq⟩ | ⟨hidle, heq⟩⟩ <;>
    rw [heq] at hr <;> cases hr
  · exact .of_adjusts hi (.refl _ _) trivial rfl fun _ => not_false
  · exact .of_adjusts hi (adjusts_pruned none h id) trivial rfl fun _ => not_false
  · have hpruned := adjusts_pruned none h id
    have hunheard : ∀ stream, ¬ (h.modify id Observer.pruned).Serves a stream := by
      rintro stream ⟨j, o', hfound', ho', hlistens⟩
      rw [lookup?_modify, hfound] at hfound'
      cases hfound'
      rw [observer?_modify, if_pos rfl, ho] at ho'
      cases ho'
      have hnobody : o.pruned.broadcaster.listeners = [] :=
        o.broadcaster.listeners_prune.trans ((Broadcaster.isIdle_iff_listeners _).mp hidle)
      rw [hnobody] at hlistens
      cases hlistens
    have hgone : ∀ b, ((h.modify id Observer.pruned).without a).lookup? b ≠ some id := by
      intro b hb
      obtain rfl : b = a := hi.address_inj hfound (lookup?_of_without hb)
      rw [lookup?_without, if_pos rfl] at hb
      cases hb
    have hlength : id < ((h.modify id Observer.pruned).without a).observers.length :=
      Nat.lt_of_lt_of_eq (hi.lt_length hfound) hpruned.length_eq.symm
    exact .of_keeps (hpruned.keeps.trans (.without hunheard)) ((hpruned.coherent hi).without a)
      ⟨hlength, hgone⟩ rfl rfl rfl lookup?_of_without fun _ => False.elim

lemma respects_stop (hi : h.Coherent) {addresses : List Address}
    (hs : (Call.stopping id addresses).Sound h) :
    Respects (.stopping id addresses) (.releasing addresses) h (h.stopObserver id) :=
  .of_adjusts hi (adjusts_stopObserver none hs.2) trivial rfl fun _ => not_false

/-- A start that sets the hub running owes a start to all observers that are there. -/
lemma respects_run (hi : h.Coherent) :
    Respects .starting (.visiting h.observers.length []) h h.setRunning where
  keeps := .setRunning h
  coherent := hi.setRunning
  sound := List.nil_subset _
  stream := nofun
  owed _ _ _ hfound := .inr (.inl ⟨hi.lt_length (h := h) hfound, List.not_mem_nil⟩)
  isCancelled_eq := rfl

lemma respects_finish (hi : h.Coherent) {bound : ObserverId} {visited : List ObserverId}
    (hs : (Call.visiting bound visited).Sound h)
    (hall : ∀ id ∈ h.directory.values, bound ≤ id ∨ id ∈ visited) :
    Respects (.visiting bound visited) .done h h :=
  .of_keeps (.refl _ _) hi trivial rfl rfl rfl (fun hfound => hfound) fun hfound howes => by
    rcases hall _ (h.directory.mem_values.mpr ⟨_, hfound⟩) with hle | hvisited
    · exact absurd howes.1 (Nat.not_lt.mpr hle)
    · exact .inr (hs hvisited)

lemma respects_visit (hi : h.Coherent) {bound : ObserverId} {visited : List ObserverId}
    (hs : (Call.visiting bound visited).Sound h) (hfound : h.lookup? a = some id) :
    Respects (.visiting bound visited) (.visiting bound (id :: visited)) h
      (h.startObserver id) := by
  have hstarted := hi.mem_started_startObserver hfound
  have hkeeps : Keeps none h (h.startObserver id) := .startObserver h id
  refine .of_keeps (.startObserver h id) (hi.startObserver id) ?_ rfl (h.startObserver_rest id).1
    (h.startObserver_rest id).2.1 (fun hfound => by rwa [lookup?_startObserver] at hfound)
    fun {_ j} _ howes => ?_
  · exact List.cons_subset.mpr ⟨hstarted, List.Subset.trans hs hkeeps.started⟩
  · by_cases hj : j = id
    · exact .inr (hj ▸ hstarted)
    · exact .inl ⟨howes.1, by simp [hj, howes.2]⟩

lemma respects_leave (hi : h.Coherent) (a : Address) (stream : StreamId) (inTime : Bool) :
    Respects (.subscribed a stream inTime) .done h (h.leave [stream]) :=
  .of_adjusts hi (adjusts_leave h stream) trivial rfl fun _ => not_false

/-- Every step of every call. -/
theorem respects_of_steps (hi : h.Coherent) (hs : c.Sound h) (hsteps : Steps h c c' h') :
    Respects c c' h h' := by
  cases hsteps with
  | refuse hf | released =>
    exact .of_adjusts hi (.refl _ _) trivial rfl fun _ => not_false
  | find hf => exact respects_find hi hf
  | enter => exact respects_enter hi _ _
  | join => exact respects_join hi hs
  | leave => exact respects_leave hi _ _ _
  | spare hr => exact respects_release hi hr
  | remove hr => exact respects_release hi hr
  | stop => exact respects_stop hi hs
  | run => exact respects_run hi
  | visit hfound => exact respects_visit hi hs hfound
  | finish hall => exact respects_finish hi hs hall

end NodeWatch.Hub
