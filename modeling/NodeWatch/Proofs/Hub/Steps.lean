import Mathlib.Tactic.Common
import NodeWatch.Hub
import NodeWatch.Proofs.Broadcaster

/-!
# What the steps of a hub do

Every step is described by what can be looked up after it: the observers by number (`observer?`),
the directory by address (`lookup?`), and the sources that have been started. Nothing else unfolds a
step.
-/

namespace NodeWatch

open Files Resource

/-- A complete address has a source. -/
lemma LineSource.ofAddress_of_isComplete (root : Rootfs) {a : Address} (ha : a.isComplete = true) :
    ∃ source, LineSource.ofAddress root a = .ok source := by
  obtain ⟨kind, parts⟩ := a
  cases kind <;> rcases parts with _ | ⟨part, _ | ⟨other, parts⟩⟩ <;>
    simp [Address.isComplete, Kind.partCount, LineSource.ofAddress] at ha ⊢

/-- An address that is not complete has no source, and the error names it. -/
lemma LineSource.ofAddress_of_not_isComplete (root : Rootfs) {a : Address}
    (ha : a.isComplete = false) : LineSource.ofAddress root a = .error (.partCount a) := by
  obtain ⟨kind, parts⟩ := a
  cases kind <;> rcases parts with _ | ⟨part, _ | ⟨other, parts⟩⟩ <;>
    simp [Address.isComplete, Kind.partCount, LineSource.ofAddress] at ha ⊢

namespace Observer

/-- An observer that has forgotten the subscribers that have gone. -/
def pruned (o : Observer) : Observer :=
  { o with broadcaster := o.broadcaster.prune }

/-- What releasing its address leaves of an observer. -/
def letGo (o : Observer) : Observer :=
  { o.pruned with isStopped := o.isStopped || (o.isStarted && o.broadcaster.isIdle) }

@[simp] lemma letGo_isStarted (o : Observer) : o.letGo.isStarted = o.isStarted := rfl

@[simp] lemma letGo_isStopped (o : Observer) :
    o.letGo.isStopped = (o.isStopped || (o.isStarted && o.broadcaster.isIdle)) := rfl

@[simp] lemma letGo_listeners (o : Observer) :
    o.letGo.broadcaster.listeners = o.broadcaster.listeners :=
  o.broadcaster.listeners_prune

@[simp] lemma letGo_isIdle (o : Observer) : o.letGo.broadcaster.isIdle = o.broadcaster.isIdle :=
  congrArg List.isEmpty o.broadcaster.live_prune

lemma letGo_letGo (o : Observer) : o.letGo.letGo = o.letGo := by
  have hidle : o.broadcaster.prune.isIdle = o.broadcaster.isIdle := o.letGo_isIdle
  simp only [letGo, pruned, hidle, Broadcaster.prune_prune, Bool.or_assoc, Bool.or_self]

end Observer

namespace Hub

lemma observer?_modify (h : Hub) (id j : ObserverId) (f : Observer → Observer) :
    (h.modify id f).observer? j = if id = j then (h.observer? j).map f else h.observer? j := by
  simp only [observer?, modify, List.getElem?_modify]
  split_ifs with hj
  · rfl
  · simp

@[simp] lemma lookup?_modify (h : Hub) (id : ObserverId) (f : Observer → Observer) (a : Address) :
    (h.modify id f).lookup? a = h.lookup? a := rfl

lemma observer?_eq_some_lt {h : Hub} {id : ObserverId} {o : Observer}
    (ho : h.observer? id = some o) : id < h.observers.length :=
  (List.getElem?_eq_some_iff.mp ho).1

lemma observer?_mapObservers (h : Hub) (f : Observer → Observer) (id : ObserverId) :
    Hub.observer? { h with observers := h.observers.map f } id = (h.observer? id).map f :=
  List.getElem?_map

lemma hub_look (h : Hub) (files : Tree) :
    (h.look files).1 = { h with
      observers := h.observers.map fun o => (o.look files h.isCancelled).1 } := by
  simp [look, Function.comp_def]

lemma hub_deliver (h : Hub) :
    h.deliver.1 = { h with observers := h.observers.map fun o => o.deliver.1 } := by
  simp [deliver, Function.comp_def]

/-- The hub with a new observer for an address, under the next number. -/
def make (h : Hub) (a : Address) (source : LineSource) : Hub :=
  { h with
    observers := h.observers ++ [{ address := a, source := source }]
    directory := h.directory.set a h.observers.length }

lemma observer?_make (h : Hub) (a : Address) (source : LineSource) (j : ObserverId) :
    (h.make a source).observer? j =
      if j = h.observers.length then some { address := a, source := source }
      else h.observer? j := by
  simp only [observer?, make]
  rcases Nat.lt_trichotomy j h.observers.length with hlt | heq | hgt
  · rw [List.getElem?_append_left hlt, if_neg (Nat.ne_of_lt hlt)]
  · rw [heq, List.getElem?_concat_length, if_pos rfl]
  · rw [if_neg (Nat.ne_of_gt hgt), List.getElem?_eq_none (Nat.le_of_lt hgt), List.getElem?_eq_none]
    simpa using Nat.succ_le_of_lt hgt

lemma lookup?_make (h : Hub) (a : Address) (source : LineSource) (b : Address) :
    (h.make a source).lookup? b = if b = a then some h.observers.length else h.lookup? b := by
  simp only [lookup?, make]
  split_ifs with hb
  · rw [hb, Table.get?_set_self]
  · exact Table.get?_set_of_ne _ hb _

lemma length_le_make (h : Hub) (a : Address) (source : LineSource) :
    h.observers.length ≤ (h.make a source).observers.length := by
  simp [make]

/-- An observer is found in the directory, or made under the next number. -/
lemma findOrMake_cases {h h' : Hub} {a : Address} {id : ObserverId}
    (hf : h.findOrMake a = .ok (id, h')) :
    (h.lookup? a = some id ∧ h' = h) ∨
      (h.lookup? a = none ∧ a.isComplete = true ∧ id = h.observers.length ∧
        ∃ source, h' = h.make a source) := by
  unfold findOrMake at hf
  split at hf
  · next found hfound =>
    cases hf
    exact .inl ⟨hfound, rfl⟩
  · next hnone =>
    by_cases ha : a.isComplete = true
    · obtain ⟨source, hsource⟩ := LineSource.ofAddress_of_isComplete h.root ha
      rw [hsource] at hf
      cases hf
      exact .inr ⟨hnone, ha, rfl, source, rfl⟩
    · rw [LineSource.ofAddress_of_not_isComplete h.root (by simpa using ha)] at hf
      cases hf

lemma observer?_enter (h : Hub) (id j : ObserverId) :
    (h.enter id).2.observer? j =
      if id = j then (h.observer? j).map fun o =>
        { o with broadcaster := o.broadcaster.subscribe h.nextStream streamCapacity }
      else h.observer? j :=
  observer?_modify h id j _

/-- Starting an observer that runs already changes nothing, also where this does not say so. -/
lemma observer?_startObserver (h : Hub) (id j : ObserverId) :
    (h.startObserver id).observer? j =
      if id = j then (h.observer? j).map fun o => { o with isStarted := true }
      else h.observer? j := by
  unfold startObserver
  split
  · next hnone =>
    split_ifs with hj
    · rw [← hj, hnone]
      rfl
    · rfl
  · next o ho =>
    split_ifs with hstarted hj hj
    · rw [← hj, ho, Option.map_some, ← hstarted]
    · rfl
    · rw [← hj]
      exact (observer?_modify h id id _).trans (if_pos rfl)
    · exact (observer?_modify h id j _).trans (if_neg hj)

@[simp] lemma lookup?_startObserver (h : Hub) (id : ObserverId) (a : Address) :
    (h.startObserver id).lookup? a = h.lookup? a := by
  unfold startObserver
  split
  · rfl
  · split_ifs <;> rfl

lemma lookup?_foldl_startObserver (h : Hub) (ids : List ObserverId) (a : Address) :
    (ids.foldl startObserver h).lookup? a = h.lookup? a :=
  List.foldlRecOn (motive := fun h' : Hub => h'.lookup? a = h.lookup? a) _ _ rfl
    fun h' hsame id _ => (lookup?_startObserver h' id a).trans hsame

lemma started_startObserver (h : Hub) (id : ObserverId) :
    (h.startObserver id).started =
      if ∃ o, h.observer? id = some o ∧ o.isStarted = false then h.started ++ [id]
      else h.started := by
  unfold startObserver
  split
  · next hnone => simp [hnone]
  · next o ho => by_cases hstarted : o.isStarted = true <;> simp [ho, hstarted]

/-- Starting leaves everything else as it is. -/
lemma startObserver_rest (h : Hub) (id : ObserverId) :
    (h.startObserver id).isRunning = h.isRunning ∧
      (h.startObserver id).isCancelled = h.isCancelled ∧
      (h.startObserver id).nextStream = h.nextStream ∧
      (h.startObserver id).observers.length = h.observers.length := by
  unfold startObserver
  split
  · simp
  · split_ifs <;> simp [modify]

/-! ### Subscribing -/

/-- What a subscription to `a` does to `h`: the stream enters at the observer with number `id`,
which was `o` before. -/
structure Subscribed (h : Hub) (a : Address) (id : ObserverId) (o : Observer) (h' : Hub) :
    Prop where
  /-- The observer was found in the directory, or it is new. -/
  origin : (h.lookup? a = some id ∧ h.observer? id = some o) ∨
    (h.lookup? a = none ∧ a.isComplete = true ∧ id = h.observers.length ∧
      ∃ source, o = { address := a, source := source })
  lookup?_eq : ∀ b, h'.lookup? b = if b = a then some id else h.lookup? b
  observer?_eq : ∀ j, h'.observer? j =
    if j = id then
      some { o with
        broadcaster := o.broadcaster.subscribe h.nextStream streamCapacity
        isStarted := o.isStarted || h.isRunning }
    else h.observer? j
  started_eq : h'.started =
    if h.isRunning = true ∧ o.isStarted = false then h.started ++ [id] else h.started
  nextStream_eq : h'.nextStream = h.nextStream + 1
  isRunning_eq : h'.isRunning = h.isRunning
  isCancelled_eq : h'.isCancelled = h.isCancelled
  length_le : h.observers.length ≤ h'.observers.length

/-- The stream enters at an observer that the directory leads to, and the observer starts if the hub
runs. -/
lemma Subscribed.of_found {h : Hub} {a : Address} {id : ObserverId} {o : Observer}
    (hfound : h.lookup? a = some id) (ho : h.observer? id = some o) :
    Subscribed h a id o ((h.enter id).2.startIfRunning id) := by
  have hlookup : ∀ b, h.lookup? b = if b = a then some id else h.lookup? b := by
    intro b
    split_ifs with hb
    · rw [hb, hfound]
    · rfl
  have hentered : ∀ j, (h.enter id).2.observer? j = if j = id then
      some { o with broadcaster := o.broadcaster.subscribe h.nextStream streamCapacity }
      else h.observer? j := by
    intro j
    rw [observer?_enter]
    by_cases hj : id = j
    · simp [← hj, ho]
    · simp [hj, Ne.symm hj]
  have hlength : (h.enter id).2.observers.length = h.observers.length := by simp [enter, modify]
  rcases hrunning : h.isRunning with _ | _
  · have heq : (h.enter id).2.startIfRunning id = (h.enter id).2 := by
      simp [startIfRunning, enter, modify, hrunning]
    rw [heq]
    exact {
      origin := .inl ⟨hfound, ho⟩
      lookup?_eq := hlookup
      observer?_eq := fun j => by simpa [hrunning] using hentered j
      started_eq := by simp [hrunning, enter, modify]
      nextStream_eq := rfl
      isRunning_eq := rfl
      isCancelled_eq := rfl
      length_le := Nat.le_of_eq hlength.symm }
  · have heq : (h.enter id).2.startIfRunning id = (h.enter id).2.startObserver id := by
      simp [startIfRunning, enter, modify, hrunning]
    obtain ⟨hrun, hcancelled, hstream, hsize⟩ := (h.enter id).2.startObserver_rest id
    rw [heq]
    exact {
      origin := .inl ⟨hfound, ho⟩
      lookup?_eq := fun b => (lookup?_startObserver _ _ b).trans (hlookup b)
      observer?_eq := fun j => by
        rw [observer?_startObserver, hentered]
        by_cases hj : id = j
        · simp [← hj, hrunning]
        · simp [hj, Ne.symm hj]
      started_eq := by
        rw [started_startObserver, hentered]
        simp [hrunning, enter, modify]
      nextStream_eq := hstream
      isRunning_eq := hrun
      isCancelled_eq := hcancelled
      length_le := Nat.le_of_eq (hsize.trans hlength).symm }

/-- A subscription that succeeds gives the next stream number; the observer of the address is there
or is made first. -/
lemma subscribe_cases {h h' : Hub} {a : Address} {stream : StreamId}
    (hfound : ∀ id, h.lookup? a = some id → ∃ o, h.observer? id = some o)
    (hs : h.subscribe a = .ok (stream, h')) :
    stream = h.nextStream ∧ ∃ id o, Subscribed h a id o h' := by
  rcases hmade : h.findOrMake a with e | ⟨id, h₀⟩
  · simp [subscribe, hmade, bind, Except.bind] at hs
  · simp only [subscribe, hmade, bind, Except.bind, pure, Except.pure, Except.ok.injEq,
      Prod.mk.injEq] at hs
    obtain ⟨rfl, rfl⟩ := hs
    rcases findOrMake_cases hmade with ⟨hid, rfl⟩ | ⟨hnone, ha, rfl, source, rfl⟩
    · obtain ⟨o, ho⟩ := hfound id hid
      exact ⟨rfl, id, o, .of_found hid ho⟩
    · have hlookup := h.lookup?_make a source
      have hobserver := h.observer?_make a source
      have hnew : Subscribed (h.make a source) a h.observers.length
          { address := a, source := source } _ :=
        .of_found (by rw [hlookup, if_pos rfl]) (by rw [hobserver, if_pos rfl])
      refine ⟨rfl, h.observers.length, { address := a, source := source }, ?_⟩
      exact {
        origin := .inr ⟨hnone, ha, rfl, source, rfl⟩
        lookup?_eq := fun b => by
          rw [hnew.lookup?_eq, hlookup]
          split_ifs <;> rfl
        observer?_eq := fun j => by
          rw [hnew.observer?_eq, hobserver]
          split_ifs <;> rfl
        started_eq := hnew.started_eq
        nextStream_eq := hnew.nextStream_eq
        isRunning_eq := hnew.isRunning_eq
        isCancelled_eq := hnew.isCancelled_eq
        length_le := Nat.le_trans (h.length_le_make a source) hnew.length_le }

/-- An address that is not complete and has no observer cannot be subscribed to. -/
lemma subscribe_of_not_isComplete {h : Hub} {a : Address} (hnone : h.lookup? a = none)
    (ha : a.isComplete = false) : h.subscribe a = .error (.partCount a) := by
  simp [subscribe, findOrMake, hnone, LineSource.ofAddress_of_not_isComplete h.root ha, bind,
    Except.bind]

/-- A complete address can always be subscribed to. -/
lemma subscribe_of_isComplete (h : Hub) {a : Address} (ha : a.isComplete = true) :
    ∃ stream h', h.subscribe a = .ok (stream, h') := by
  obtain ⟨source, hsource⟩ := LineSource.ofAddress_of_isComplete h.root ha
  rcases hfound : h.lookup? a with _ | id
  · exact ⟨_, _, by simp [subscribe, findOrMake, hfound, hsource, bind, Except.bind]; rfl⟩
  · exact ⟨_, _, by simp [subscribe, findOrMake, hfound, bind, Except.bind]; rfl⟩

/-! ### Releasing -/

/-- Whether the directory leads from an address to an observer that nobody listens to. -/
def isUnheard (h : Hub) (a : Address) : Bool :=
  ((h.lookup? a).bind h.observer?).any fun o => o.broadcaster.isIdle

/-- The hub without the observer of an address in its directory. -/
def without (h : Hub) (a : Address) : Hub :=
  { h with directory := h.directory.erase a }

lemma lookup?_without (h : Hub) (a b : Address) :
    (h.without a).lookup? b = if b = a then none else h.lookup? b := by
  split_ifs with hb
  · rw [hb]
    exact Table.get?_erase_self _ _
  · exact Table.get?_erase_of_ne _ hb

lemma lookup?_of_without {h : Hub} {a b : Address} {id : ObserverId}
    (hfound : (h.without a).lookup? b = some id) : h.lookup? b = some id := by
  rw [lookup?_without] at hfound
  split_ifs at hfound
  exact hfound

/-- The address has no observer, somebody listens to its observer, or the observer is taken out. -/
lemma removeIfIdle_cases (h : Hub) (a : Address) :
    (h.removeIfIdle a = (none, h) ∧ (h.lookup? a).bind h.observer? = none) ∨
      ∃ id o, h.lookup? a = some id ∧ h.observer? id = some o ∧
        ((o.broadcaster.isIdle = false ∧
            h.removeIfIdle a = (none, h.modify id Observer.pruned)) ∨
          (o.broadcaster.isIdle = true ∧
            h.removeIfIdle a = (some id, (h.modify id Observer.pruned).without a))) := by
  rcases hfound : h.lookup? a with _ | id
  · exact .inl ⟨by simp [removeIfIdle, hfound], rfl⟩
  rcases ho : h.observer? id with _ | o
  · exact .inl ⟨by simp [removeIfIdle, hfound, ho], ho⟩
  · refine .inr ⟨id, o, rfl, ho, ?_⟩
    rcases hidle : o.broadcaster.isIdle with _ | _
    · exact .inl ⟨rfl, by simp [removeIfIdle, hfound, ho, hidle]; rfl⟩
    · exact .inr ⟨rfl, by simp [removeIfIdle, hfound, ho, hidle]; rfl⟩

/-- An address is released in one of three ways: it has no observer, somebody listens to its
observer, or the observer goes. -/
lemma releaseOne_cases (h : Hub) (a : Address) :
    (h.releaseOne a = h ∧ (h.lookup? a).bind h.observer? = none) ∨
      ∃ id o, h.lookup? a = some id ∧ h.observer? id = some o ∧
        ((o.broadcaster.isIdle = false ∧ h.releaseOne a = h.modify id Observer.pruned) ∨
          (o.broadcaster.isIdle = true ∧
            h.releaseOne a = ((h.modify id Observer.pruned).without a).stopObserver id)) := by
  rcases h.removeIfIdle_cases a with ⟨heq, hnone⟩ |
    ⟨id, o, hfound, ho, ⟨hidle, heq⟩ | ⟨hidle, heq⟩⟩
  · exact .inl ⟨by rw [releaseOne, heq], hnone⟩
  · exact .inr ⟨id, o, hfound, ho, .inl ⟨hidle, by rw [releaseOne, heq]⟩⟩
  · exact .inr ⟨id, o, hfound, ho, .inr ⟨hidle, by rw [releaseOne, heq]⟩⟩

lemma lookup?_releaseOne (h : Hub) (a b : Address) :
    (h.releaseOne a).lookup? b = if b = a ∧ h.isUnheard a then none else h.lookup? b := by
  rcases h.releaseOne_cases a with ⟨heq, hnone⟩ | ⟨id, o, hfound, ho, ⟨hidle, heq⟩ | ⟨hidle, heq⟩⟩
  · simp [heq, isUnheard, hnone]
  · simp [heq, isUnheard, hfound, ho, hidle]
  · rw [heq]
    change ((h.modify id Observer.pruned).without a).lookup? b = _
    simp only [isUnheard, hfound, ho, hidle, Option.bind_some, Option.any_some, and_true]
    exact lookup?_without _ a b

lemma observer?_releaseOne (h : Hub) (a : Address) (j : ObserverId) :
    (h.releaseOne a).observer? j =
      if h.lookup? a = some j then (h.observer? j).map Observer.letGo else h.observer? j := by
  rcases h.releaseOne_cases a with ⟨heq, hnone⟩ | ⟨id, o, hfound, ho, ⟨hidle, heq⟩ | ⟨hidle, heq⟩⟩
  · rw [heq]
    split_ifs with hj
    · rw [hj, Option.bind_some] at hnone
      rw [hnone, Option.map_none]
    · rfl
  · rw [heq, observer?_modify, hfound]
    by_cases hj : id = j
    · subst hj
      simp [ho, Observer.letGo, hidle, Observer.pruned]
    · simp [hj]
  · have hstop : (h.releaseOne a).observer? j = if id = j
        then ((h.modify id Observer.pruned).observer? j).map
          fun o => if o.isStarted then { o with isStopped := true } else o
        else (h.modify id Observer.pruned).observer? j :=
      heq ▸ observer?_modify _ id j _
    rw [hstop, observer?_modify, hfound]
    by_cases hj : id = j
    · subst hj
      by_cases hstarted : o.isStarted = true <;>
        simp [ho, Observer.letGo, hidle, Observer.pruned, hstarted]
    · simp [hj]

/-- Releasing leaves everything else as it is. -/
lemma releaseOne_rest (h : Hub) (a : Address) :
    (h.releaseOne a).isRunning = h.isRunning ∧ (h.releaseOne a).isCancelled = h.isCancelled ∧
      (h.releaseOne a).started = h.started ∧ (h.releaseOne a).nextStream = h.nextStream ∧
      (h.releaseOne a).observers.length = h.observers.length := by
  rcases h.releaseOne_cases a with ⟨heq, -⟩ | ⟨id, o, -, -, ⟨-, heq⟩ | ⟨-, heq⟩⟩ <;>
    simp [heq, stopObserver, without, modify]

end Hub

end NodeWatch
