import Mathlib.Data.List.TakeWhile
import Mathlib.Tactic.Common
import NodeWatch.Proofs.Hub.Session

/-!
# Registrations that fail

A monitor that fails to register gives back what it got: the hub afterwards is the hub before, less
the observers that it asked for and nobody listens to. There is no log of what has been done; an
observer goes because it is found idle. The main statement is `Session.register_rolledBack`.
-/

namespace NodeWatch

open Files Resource

lemma Broadcaster.live_filter_live (b : Broadcaster) (p : Subscriber → Bool) :
    (⟨b.live.filter p⟩ : Broadcaster).live = b.live.filter p := by
  simp only [live, List.filter_filter]
  exact List.filter_congr fun s _ => by cases s.isAlive <;> simp

namespace Observer

/-- An observer as those see it whose streams have smaller numbers than `n`. -/
def before (n : StreamId) (o : Observer) : Observer :=
  { o with broadcaster := ⟨o.broadcaster.live.filter fun s => s.stream < n⟩ }

lemma before_before {n m : StreamId} (hle : n ≤ m) (o : Observer) :
    (o.before m).before n = o.before n := by
  simp only [before, Broadcaster.live_filter_live, List.filter_filter]
  congr 2
  refine List.filter_congr fun s _ => ?_
  simp only [Bool.and_eq_left_iff_imp, decide_eq_true_eq]
  exact fun hlt => Nat.lt_of_lt_of_le hlt hle

lemma before_congr {n m : StreamId} (hle : n ≤ m) {o o' : Observer}
    (heq : o'.before m = o.before m) : o'.before n = o.before n := by
  rw [← before_before hle o', heq, before_before hle]

lemma live_before (n : StreamId) (o : Observer) :
    (o.before n).broadcaster.live = o.broadcaster.live.filter fun s => s.stream < n :=
  o.broadcaster.live_filter_live _

/-- All that matters of an observer is what its subscribers see. -/
lemma before_eq_pruned {n : StreamId} {o : Observer}
    (hall : ∀ stream ∈ o.broadcaster.listeners, stream < n) : o.before n = o.pruned := by
  have hfilter : (o.broadcaster.live.filter fun s => s.stream < n) = o.broadcaster.live :=
    List.filter_eq_self.mpr fun s hs => by
      simpa using hall s.stream (List.mem_map_of_mem hs)
  simp only [before, pruned, hfilter]
  rfl

lemma live_of_pruned_eq {o o' : Observer} (hpruned : o.pruned = o') :
    o.broadcaster.live = o'.broadcaster.live := by
  rw [← hpruned]
  exact o.broadcaster.live_prune.symm

end Observer

namespace Hub

/-- What subscriptions to the addresses `asked` change: new observers for addresses that had none,
and new streams, numbered after all that were there. -/
structure Extends (h : Hub) (asked : List Address) (h' : Hub) : Prop where
  old : ∀ {id o}, h.observer? id = some o →
    ∃ o', h'.observer? id = some o' ∧ o'.before h.nextStream = o.before h.nextStream
  new : ∀ {id o'}, h.observers.length ≤ id → h'.observer? id = some o' →
    (o'.before h.nextStream).broadcaster.live = []
  kept : ∀ {a id}, h.lookup? a = some id → h'.lookup? a = some id
  entered : ∀ a ∈ asked, ∃ id, h'.lookup? a = some id
  origin : ∀ {a id}, h'.lookup? a = some id →
    h.lookup? a = some id ∨ (a ∈ asked ∧ h.observers.length ≤ id)
  isRunning_eq : h'.isRunning = h.isRunning
  isCancelled_eq : h'.isCancelled = h.isCancelled

lemma Extends.refl (h : Hub) : Extends h [] h where
  old ho := ⟨_, ho, rfl⟩
  new hle ho := absurd (observer?_eq_some_lt ho) (Nat.not_lt_of_le hle)
  kept hfound := hfound
  entered := by simp
  origin hfound := .inl hfound
  isRunning_eq := rfl
  isCancelled_eq := rfl

section Subscribed

variable {h h' : Hub} {a : Address} {id : ObserverId} {o : Observer}

/-- What was found before is found after. -/
lemma Subscribed.lookup?_of_some (hs : Subscribed h a id o h') {b : Address} {j : ObserverId}
    (hb : h.lookup? b = some j) : h'.lookup? b = some j := by
  rw [hs.lookup?_eq]
  split_ifs with hba
  · have hid := hs.eq_of_lookup? (j := j) (hba ▸ hb)
    rw [hid]
  · exact hb

/-- Those who listened before see no difference: an observer of the directory of a running hub runs
already. -/
lemma Subscribed.before_eq (hi : h.Invariant) (hall : h.AllStarted) (hs : Subscribed h a id o h')
    {j : ObserverId} {o₀ : Observer} (ho₀ : h.observer? j = some o₀) :
    ∃ o', h'.observer? j = some o' ∧ o'.before h.nextStream = o₀.before h.nextStream := by
  rw [hs.observer?_eq]
  split_ifs with hj
  · subst hj
    rcases hs.origin with ⟨hfound, ho⟩ | ⟨-, -, rfl, -⟩
    · rw [ho] at ho₀
      cases ho₀
      have hstarted : (o.isStarted || h.isRunning) = o.isStarted := by
        rcases hrunning : h.isRunning with _ | _
        · simp
        · simpa using (hs.mem_started_iff hi).mp (hall hrunning hfound)
      refine ⟨_, rfl, ?_⟩
      simp only [Observer.before, hstarted, Broadcaster.live_subscribe, List.filter_append]
      simp
    · exact absurd (observer?_eq_some_lt ho₀) (Nat.lt_irrefl _)
  · exact ⟨o₀, ho₀, rfl⟩

/-- An observer that was not there before has no earlier subscriber. -/
lemma Subscribed.before_new (hs : Subscribed h a id o h') {j : ObserverId} {o' : Observer}
    (hle : h.observers.length ≤ j) (ho' : h'.observer? j = some o') :
    (o'.before h.nextStream).broadcaster.live = [] := by
  rw [hs.observer?_eq] at ho'
  split_ifs at ho' with hj
  · subst hj
    cases ho'
    rcases hs.origin with ⟨-, ho⟩ | ⟨-, -, -, source, rfl⟩
    · exact absurd (observer?_eq_some_lt ho) (Nat.not_lt_of_le hle)
    · rw [Observer.live_before, Broadcaster.live_subscribe]
      simp
  · exact absurd (observer?_eq_some_lt ho') (Nat.not_lt_of_le hle)

lemma Subscribed.extends (hi : h.Invariant) (hall : h.AllStarted) (hs : Subscribed h a id o h')
    {asked : List Address} {h'' : Hub} (hrest : Extends h' asked h'') :
    Extends h (a :: asked) h'' := by
  have hle : h.nextStream ≤ h'.nextStream := hs.nextStream_eq ▸ Nat.le_succ _
  constructor
  case old =>
    intro j o₀ ho₀
    obtain ⟨o', ho', hbefore⟩ := hs.before_eq hi hall ho₀
    obtain ⟨o'', ho'', hbefore'⟩ := hrest.old ho'
    exact ⟨o'', ho'', (Observer.before_congr hle hbefore').trans hbefore⟩
  case new =>
    intro j o'' hj ho''
    rcases Nat.lt_or_ge j h'.observers.length with hlt | hge
    · obtain ⟨o', ho'⟩ : ∃ o', h'.observer? j = some o' := ⟨_, List.getElem?_eq_getElem hlt⟩
      obtain ⟨o₁, ho₁, hbefore⟩ := hrest.old ho'
      rw [ho''] at ho₁
      cases ho₁
      rw [Observer.before_congr hle hbefore]
      exact hs.before_new hj ho'
    · have hnone := hrest.new hge ho''
      rw [Observer.live_before, List.filter_eq_nil_iff] at hnone ⊢
      intro s hmem hlt
      refine hnone s hmem ?_
      simpa using Nat.lt_of_lt_of_le (by simpa using hlt) hle
  case kept => exact fun hfound => hrest.kept (hs.lookup?_of_some hfound)
  case entered =>
    intro b hb
    rcases List.mem_cons.mp hb with rfl | hb
    · exact ⟨id, hrest.kept hs.lookup?_self⟩
    · exact hrest.entered b hb
  case origin =>
    intro b j hb
    rcases hrest.origin hb with hb | ⟨hmem, hj⟩
    · rw [hs.lookup?_eq] at hb
      split_ifs at hb with hba
      · cases hb
        rcases hs.origin with ⟨hfound, -⟩ | ⟨-, -, rfl, -⟩
        · exact .inl (hba ▸ hfound)
        · exact .inr ⟨List.mem_cons.mpr (.inl hba), Nat.le_refl _⟩
      · exact .inl hb
    · exact .inr ⟨List.mem_cons_of_mem _ hmem, Nat.le_trans hs.length_le hj⟩
  case isRunning_eq => exact hrest.isRunning_eq.trans hs.isRunning_eq
  case isCancelled_eq => exact hrest.isCancelled_eq.trans hs.isCancelled_eq

end Subscribed

lemma extends_subscribeAll {h : Hub} (hi : h.Invariant) (hall : h.AllStarted)
    (addresses : List Address) :
    Extends h ((h.subscribeAll addresses).1.map Prod.fst) (h.subscribeAll addresses).2.2 :=
  subscribeAll_induction
    (P := fun h streams h' => h.AllStarted → Extends h (streams.map Prod.fst) h')
    (fun h _ _ => .refl h)
    (fun hi hs hrest hall => hs.extends hi hall (hrest (hs.allStarted hi hall))) hi addresses hall

/-! ### Releases and subscriptions that fail -/

lemma isUnheard_releaseOne (h : Hub) (a b : Address) :
    (h.releaseOne a).isUnheard b = true ↔
      h.isUnheard b = true ∧ ¬(b = a ∧ h.isUnheard a = true) := by
  by_cases hgone : b = a ∧ h.isUnheard a = true
  · have hnone : (h.releaseOne a).lookup? b = none := by rw [lookup?_releaseOne, if_pos hgone]
    have hunheard : (h.releaseOne a).isUnheard b = false := by rw [isUnheard, hnone]; rfl
    rw [hunheard]
    exact iff_of_false Bool.false_ne_true fun hboth => hboth.2 hgone
  · have hsame : (h.releaseOne a).lookup? b = h.lookup? b := by
      rw [lookup?_releaseOne, if_neg hgone]
    have hunheard : (h.releaseOne a).isUnheard b = h.isUnheard b := by
      rw [isUnheard, isUnheard, hsame]
      rcases h.lookup? b with _ | id
      · rfl
      · rw [Option.bind_some, Option.bind_some, observer?_releaseOne]
        split_ifs
        · rcases h.observer? id with _ | o
          · rfl
          · simp only [Option.map_some, Option.any_some, Observer.letGo_isIdle]
        · rfl
    simp only [hunheard, hgone, not_false_eq_true, and_true]

lemma lookup?_release (h : Hub) (asked : List Address) (b : Address) :
    (h.release asked).lookup? b =
      if b ∈ asked ∧ h.isUnheard b = true then none else h.lookup? b := by
  induction asked generalizing h with
  | nil => simp [release]
  | cons a asked ih =>
    have hstep : h.release (a :: asked) = (h.releaseOne a).release asked := rfl
    rw [hstep, ih, lookup?_releaseOne]
    simp only [isUnheard_releaseOne, List.mem_cons]
    by_cases hba : b = a
    · subst hba
      by_cases hunheard : h.isUnheard b = true <;> simp [hunheard]
    · simp [hba]

lemma observer?_release (h : Hub) (asked : List Address) (j : ObserverId) :
    (h.release asked).observer? j =
      if ∃ a ∈ asked, h.lookup? a = some j then (h.observer? j).map Observer.letGo
      else h.observer? j := by
  induction asked generalizing h with
  | nil => simp [release]
  | cons a asked ih =>
    have hstep : h.release (a :: asked) = (h.releaseOne a).release asked := rfl
    rw [hstep, ih, observer?_releaseOne]
    by_cases ha : h.lookup? a = some j
    · have hmem : ∃ b ∈ a :: asked, h.lookup? b = some j := ⟨a, List.mem_cons_self, ha⟩
      rw [if_pos ha, if_pos hmem]
      split_ifs
      · rw [Option.map_map]
        exact congrArg (Option.map · _) (funext Observer.letGo_letGo)
      · rfl
    · have hrest : (∃ b ∈ asked, (h.releaseOne a).lookup? b = some j) ↔
          ∃ b ∈ a :: asked, h.lookup? b = some j := by
        have hlookup : ∀ b, (h.releaseOne a).lookup? b = some j ↔ h.lookup? b = some j := by
          intro b
          rw [lookup?_releaseOne]
          split_ifs with hgone
          · simpa using fun hb => ha (hgone.1 ▸ hb)
          · rfl
        simp [hlookup, ha]
      simp only [hrest, if_neg ha]

lemma isCancelled_release (h : Hub) (asked : List Address) :
    (h.release asked).isCancelled = h.isCancelled :=
  List.foldlRecOn (motive := fun h' : Hub => h'.isCancelled = h.isCancelled) _ _ rfl
    fun h' hcancelled a _ => (h'.releaseOne_rest a).2.1.trans hcancelled

/-- The directory knows complete addresses only, so that no other address can be subscribed to; a
subscription that fails does nothing else. -/
lemma Invariant.subscribe_of_not_isComplete {h : Hub} (hi : h.Invariant) {a : Address}
    (ha : a.isComplete = false) : h.subscribe a = .error (.partCount a) := by
  have hnone : h.lookup? a = none := Option.eq_none_iff_forall_ne_some.mpr fun id hfound => by
    obtain ⟨o, ho, rfl⟩ := hi.found hfound
    rw [hi.complete ho] at ha
    cases ha
  exact Hub.subscribe_of_not_isComplete hnone ha

/-- The error of a monitor that subscribes to addresses in order: that of the first subscription
that fails, or its own. -/
def registrationError? (addresses : List Address) (refusal : Option SubscribeError) :
    Option SubscribeError :=
  ((addresses.find? fun a => !a.isComplete).map .partCount).or refusal

/-- Streams are given up to the first address that is not complete. -/
lemma subscribeAll_eq_takeWhile {h : Hub} (hi : h.Invariant) (addresses : List Address) :
    (h.subscribeAll addresses).1.map Prod.fst = addresses.takeWhile Address.isComplete ∧
      (h.subscribeAll addresses).2.1 = registrationError? addresses none := by
  induction addresses generalizing h with
  | nil => exact ⟨rfl, rfl⟩
  | cons a addresses ih =>
    by_cases ha : a.isComplete = true
    · obtain ⟨stream, h', hs⟩ := h.subscribe_of_isComplete ha
      obtain ⟨-, id, o, hsub⟩ := hi.subscribed hs
      obtain ⟨hasked, herror⟩ := ih (hsub.invariant hi)
      simp only [subscribeAll, hs, List.map_cons, hasked, herror, registrationError?]
      simp [ha]
    · have hfail := hi.subscribe_of_not_isComplete (by simpa using ha)
      simp [subscribeAll, hfail, registrationError?, ha]

/-- Subscribes to addresses in order, and goes on where one fails. -/
def attemptAll (h : Hub) : List Address → List (Address × StreamId) × Hub
  | [] => ([], h)
  | a :: addresses => match h.subscribe a with
    | .error _ => h.attemptAll addresses
    | .ok (stream, h) =>
      let (streams, h) := h.attemptAll addresses
      ((a, stream) :: streams, h)

/-- To go on where a subscription fails is to leave it out. -/
lemma attemptAll_eq_subscribeAll {h : Hub} (hi : h.Invariant) (addresses : List Address) :
    h.attemptAll addresses =
      let (streams, _, h') := h.subscribeAll (addresses.filter Address.isComplete)
      (streams, h') := by
  induction addresses generalizing h with
  | nil => rfl
  | cons a addresses ih =>
    by_cases ha : a.isComplete = true
    · obtain ⟨stream, h', hs⟩ := h.subscribe_of_isComplete ha
      obtain ⟨-, id, o, hsub⟩ := hi.subscribed hs
      simp only [attemptAll, List.filter_cons_of_pos ha, subscribeAll, hs, ih (hsub.invariant hi)]
    · have hfail := hi.subscribe_of_not_isComplete (by simpa using ha)
      simp only [attemptAll, List.filter_cons_of_neg ha, hfail, ih hi]

/-! ### Rollback -/

/-- After a monitor has got streams of the addresses `asked` and failed, `h'` is what has become of
`h`. -/
structure RolledBack (h : Hub) (asked : List Address) (h' : Hub) : Prop where
  /-- Nothing is in the directory that was not there before. -/
  same : ∀ {a id}, h'.lookup? a = some id → h.lookup? a = some id
  /-- Missing is what the monitor has asked for and nobody listens to. -/
  missing_iff : ∀ {a id}, h.lookup? a = some id →
    (h'.lookup? a = none ↔ a ∈ asked ∧ ∃ o', h'.observer? id = some o' ∧ o'.broadcaster.live = [])
  /-- Who listens stays; a source that was started is stopped if its observer goes. -/
  kept : ∀ {id o}, h.observer? id = some o → ∃ o', h'.observer? id = some o' ∧
    o'.pruned = { o.pruned with
      isStopped := o.isStopped || (o.isStarted &&
        decide (h.lookup? o.address = some id ∧ h'.lookup? o.address = none)) }
  /-- Observers that the monitor made are gone, and stopped if they were started. -/
  made : ∀ {id o'}, h.observers.length ≤ id → h'.observer? id = some o' →
    h'.lookup? o'.address ≠ some id ∧ o'.broadcaster.live = [] ∧ o'.isStopped = o'.isStarted
  isRunning_eq : h'.isRunning = h.isRunning
  isCancelled_eq : h'.isCancelled = h.isCancelled

/-- The hub after `k` streams have been dropped, from number `n` on, and addresses released. -/
def dropFrom (h : Hub) (n : StreamId) (k : Nat) (asked : List Address) : Hub :=
  (h.leave (List.range' n k)).release asked

/-- Once its streams have gone, nothing of a monitor is left at an observer. -/
lemma pruned_leave {h h' : Hub} (hi : h'.Invariant) {k : Nat}
    (hnext : h'.nextStream = h.nextStream + k) {id : ObserverId} {o : Observer}
    (ho : h'.observer? id = some o) :
    ∃ o', (h'.leave (List.range' h.nextStream k)).observer? id = some o' ∧
      o'.pruned = o.before h.nextStream := by
  refine ⟨_, by rw [Hub.leave, observer?_mapObservers, ho]; rfl, ?_⟩
  have hlive := o.broadcaster.live_foldl_leave (List.range' h.nextStream k)
  have hfilter : (o.broadcaster.live.filter fun s => s.stream ∉ List.range' h.nextStream k) =
      o.broadcaster.live.filter fun s => s.stream < h.nextStream := by
    refine List.filter_congr fun s hs => ?_
    have hlt : s.stream < h.nextStream + k :=
      hnext ▸ hi.numbered ho s.stream (List.mem_map_of_mem hs)
    simp only [List.mem_range'_1, hlt, and_true, Nat.not_le]
  rw [hfilter] at hlive
  simp only [Observer.pruned, Observer.before, ← hlive]
  rfl

section Rollback

variable {h h' : Hub} {k : Nat} {asked : List Address} {id : ObserverId} {o : Observer}

/-- An address goes if it was asked for and nobody from before listens. -/
lemma lookup?_dropFrom (hi : h'.Invariant) (hnext : h'.nextStream = h.nextStream + k) {a : Address}
    (hfound : h'.lookup? a = some id) (ho : h'.observer? id = some o) :
    (h'.dropFrom h.nextStream k asked).lookup? a =
      if a ∈ asked ∧ (o.before h.nextStream).broadcaster.live = [] then none else some id := by
  obtain ⟨o', ho', hpruned⟩ := pruned_leave hi hnext ho
  have hfound' : (h'.leave (List.range' h.nextStream k)).lookup? a = some id := hfound
  have hlive := Observer.live_of_pruned_eq hpruned
  have hunheard : (h'.leave (List.range' h.nextStream k)).isUnheard a = true ↔
      (o.before h.nextStream).broadcaster.live = [] := by
    rw [isUnheard_iff hfound' ho', Broadcaster.listeners, List.map_eq_nil_iff, hlive]
  rw [dropFrom, lookup?_release, hfound']
  simp only [hunheard]

lemma observer?_dropFrom (asked : List Address) (hi : h'.Invariant)
    (hnext : h'.nextStream = h.nextStream + k) (ho : h'.observer? id = some o) :
    ∃ o', (h'.dropFrom h.nextStream k asked).observer? id = some o' ∧
      o'.pruned = { o.before h.nextStream with
        isStopped := o.isStopped || (o.isStarted &&
          decide ((∃ a ∈ asked, h'.lookup? a = some id) ∧
            (o.before h.nextStream).broadcaster.live = [])) } := by
  obtain ⟨o₂, ho₂, hpruned⟩ := pruned_leave hi hnext ho
  have hidle : o₂.broadcaster.isIdle =
      decide ((o.before h.nextStream).broadcaster.live = []) := by
    rw [Broadcaster.isIdle_eq_decide, Observer.live_of_pruned_eq hpruned]
  rw [dropFrom, observer?_release, ho₂]
  by_cases hasked : ∃ a ∈ asked, (h'.leave (List.range' h.nextStream k)).lookup? a = some id
  · have hasked' : ∃ a ∈ asked, h'.lookup? a = some id := hasked
    refine ⟨_, if_pos hasked, ?_⟩
    have hletGo : o₂.letGo.pruned = { o₂.pruned with
        isStopped := o₂.pruned.isStopped || (o₂.pruned.isStarted && o₂.broadcaster.isIdle) } := by
      simp only [Observer.letGo, Observer.pruned, Broadcaster.prune_prune]
    simp only [hletGo, hpruned, hidle, hasked', true_and]
    rfl
  · have hasked' : ¬∃ a ∈ asked, h'.lookup? a = some id := hasked
    refine ⟨_, if_neg hasked, ?_⟩
    simp only [hpruned, hasked', false_and, decide_false, Bool.and_false, Bool.or_false]
    rfl

/-- What is found after all was found before: nobody from before listens to a new observer. -/
lemma Extends.lookup?_of_dropFrom (hext : Extends h asked h') (hi : h'.Invariant)
    (hnext : h'.nextStream = h.nextStream + k) {a : Address}
    (hfound : (h'.dropFrom h.nextStream k asked).lookup? a = some id) : h.lookup? a = some id := by
  have hfound' : h'.lookup? a = some id := by
    rw [dropFrom, lookup?_release] at hfound
    split_ifs at hfound
    exact hfound
  obtain ⟨o, ho, rfl⟩ := hi.found hfound'
  rcases hext.origin hfound' with hold | ⟨hasked, hle⟩
  · exact hold
  · rw [lookup?_dropFrom hi hnext hfound' ho, if_pos ⟨hasked, hext.new hle ho⟩] at hfound
    cases hfound

/-- An observer from before is stopped if and only if it goes. -/
lemma Extends.gone_iff (hext : Extends h asked h') (hi : h'.Invariant)
    (hnext : h'.nextStream = h.nextStream + k) (hold : id < h.observers.length)
    (ho : h'.observer? id = some o) :
    ((∃ a ∈ asked, h'.lookup? a = some id) ∧ (o.before h.nextStream).broadcaster.live = []) ↔
      (h.lookup? o.address = some id ∧
        (h'.dropFrom h.nextStream k asked).lookup? o.address = none) := by
  constructor
  · rintro ⟨⟨a, ha, hfound⟩, hlive⟩
    obtain rfl := hi.address_of_lookup? hfound ho
    refine ⟨?_, by rw [lookup?_dropFrom hi hnext hfound ho, if_pos ⟨ha, hlive⟩]⟩
    rcases hext.origin hfound with hbefore | ⟨-, hle⟩
    · exact hbefore
    · exact absurd hold (Nat.not_lt_of_le hle)
  · rintro ⟨hfound, hnone⟩
    rw [lookup?_dropFrom hi hnext (hext.kept hfound) ho] at hnone
    split_ifs at hnone with hasked
    exact ⟨⟨o.address, hasked.1, hext.kept hfound⟩, hasked.2⟩

/-- What failed is undone: what is released is what nobody from before listens to. -/
lemma Extends.rolledBack (hi : h.Invariant) (hext : Extends h asked h') (hi' : h'.Invariant)
    (hnext : h'.nextStream = h.nextStream + k) :
    RolledBack h asked (h'.dropFrom h.nextStream k asked) := by
  have hfinal : (h'.dropFrom h.nextStream k asked).Invariant :=
    (hi'.mapObservers fun o => o.loses_leave _).release asked
  constructor
  case same => exact hext.lookup?_of_dropFrom hi' hnext
  case missing_iff =>
    intro a id hfound
    obtain ⟨o, ho, rfl⟩ := hi'.found (hext.kept hfound)
    obtain ⟨o', ho', hpruned⟩ := observer?_dropFrom asked hi' hnext ho
    have hlive := Observer.live_of_pruned_eq hpruned
    rw [lookup?_dropFrom hi' hnext (hext.kept hfound) ho]
    simp [ho', hlive]
  case kept =>
    intro id o ho
    obtain ⟨o₁, ho₁, hbefore⟩ := hext.old ho
    obtain ⟨o', ho', hpruned⟩ := observer?_dropFrom asked hi' hnext ho₁
    have hold : o₁.before h.nextStream = o.pruned :=
      hbefore.trans (Observer.before_eq_pruned (hi.numbered ho))
    have haddress := congrArg Observer.address hold
    have hstarted := congrArg Observer.isStarted hold
    have hstopped := congrArg Observer.isStopped hold
    simp only [Observer.before, Observer.pruned] at haddress hstarted hstopped
    refine ⟨o', ho', ?_⟩
    rw [hpruned]
    simp only [hext.gone_iff hi' hnext (observer?_eq_some_lt ho) ho₁, haddress, hstarted, hstopped]
    rw [hold]
  case made =>
    intro id o' hle ho'
    have hgone : (h'.dropFrom h.nextStream k asked).lookup? o'.address ≠ some id := by
      intro hfound
      obtain ⟨o, ho, -⟩ := hi.found (hext.lookup?_of_dropFrom hi' hnext hfound)
      exact Nat.not_lt_of_le hle (observer?_eq_some_lt ho)
    refine ⟨hgone, ?_, ?_⟩
    · rcases ho₁ : h'.observer? id with _ | o₁
      · rw [dropFrom, observer?_release, Hub.leave, observer?_mapObservers, ho₁] at ho'
        simp at ho'
      · obtain ⟨o₂, ho₂, hpruned⟩ := observer?_dropFrom asked hi' hnext ho₁
        rw [ho'] at ho₂
        cases ho₂
        exact (Observer.live_of_pruned_eq hpruned).trans (hext.new hle ho₁)
    · -- it is not in the directory, so it does not run
      rcases hstopped : o'.isStopped with _ | _
      · rcases hstarted : o'.isStarted with _ | _
        · rfl
        · exact absurd (hfinal.unstopped ho' hstarted hstopped) hgone
      · exact (hfinal.stopped ho' hstopped).symm
  case isRunning_eq =>
    rw [dropFrom, isRunning_release]
    exact hext.isRunning_eq
  case isCancelled_eq =>
    rw [dropFrom, isCancelled_release]
    exact hext.isCancelled_eq

end Rollback

lemma Invariant.rolledBack_subscribeAll {h : Hub} (hi : h.Invariant) (hall : h.AllStarted)
    (addresses : List Address) :
    let (streams, _, h') := h.subscribeAll addresses
    RolledBack h (addresses.takeWhile Address.isComplete)
      ((h'.leave (streams.map Prod.snd)).release (streams.map Prod.fst)) := by
  have hext := extends_subscribeAll hi hall addresses
  obtain ⟨hnext, hstreams⟩ := streams_subscribeAll hi addresses
  simp only [(subscribeAll_eq_takeWhile hi addresses).1, hstreams] at hext ⊢
  exact hext.rolledBack hi (hi.subscribeAll addresses) hnext

/-- Where every observer is listened to, none goes. -/
lemma RolledBack.lookup?_eq {h h' : Hub} {asked : List Address} (hrolled : RolledBack h asked h')
    (hi : h.Invariant)
    (hheard : ∀ a id o, h.lookup? a = some id → h.observer? id = some o → o.broadcaster.live ≠ [])
    (a : Address) : h'.lookup? a = h.lookup? a := by
  rcases hfound : h.lookup? a with _ | id
  · refine Option.eq_none_iff_forall_ne_some.mpr fun id hfound' => ?_
    rw [hrolled.same hfound'] at hfound
    cases hfound
  · rcases hfound' : h'.lookup? a with _ | id'
    · obtain ⟨-, o', ho', hlive⟩ := (hrolled.missing_iff hfound).mp hfound'
      obtain ⟨o, ho, -⟩ := hi.found hfound
      obtain ⟨o'', ho'', hpruned⟩ := hrolled.kept ho
      rw [ho'] at ho''
      cases ho''
      have hsame : o'.broadcaster.live = o.broadcaster.live :=
        (Observer.live_of_pruned_eq hpruned).trans o.broadcaster.live_prune
      exact absurd (hsame ▸ hlive) (hheard a id o hfound ho)
    · rw [← hrolled.same hfound', hfound]

namespace Session

/-- In whatever state, a monitor that fails gets its own error back, or that of its first
subscription that failed, and the hub is rolled back; so it is if the monitor goes on where a
subscription fails. Such a subscription does nothing. If every observer of the directory was
listened to, the directory is as it was. -/
theorem register_rolledBack (root : Rootfs) (ops : List Operation) (addresses : List Address)
    (refusal : Option SubscribeError) (e : SubscribeError)
    (he : registrationError? addresses refusal = some e) :
    let h := ((new root).run ops).hub
    let h' := (h.register addresses refusal).2
    (h.register addresses refusal).1 = .error e ∧
    RolledBack h (addresses.takeWhile Address.isComplete) h' ∧
    (∀ streams h₁, h.attemptAll addresses = (streams, h₁) →
      RolledBack h (addresses.filter Address.isComplete)
        ((h₁.leave (streams.map Prod.snd)).release (streams.map Prod.fst))) ∧
    (∀ a e', (h.subscribeAll [a]).2.1 = some e' → h.subscribeAll [a] = ([], some e', h)) ∧
    ((∀ a id o, h.lookup? a = some id → h.observer? id = some o → o.broadcaster.live ≠ []) →
      ∀ a, h'.lookup? a = h.lookup? a) := by
  have hs := (Invariant.new root).run ops
  intro h h'
  have hi : h.Invariant := hs.hub
  have hsome : (h.subscribeAll addresses).2.1.or refusal = some e := by
    rw [(subscribeAll_eq_takeWhile hi addresses).2, ← he]
    simp [registrationError?]
  have hregister := register_of_some hsome
  have hrolled : RolledBack h (addresses.takeWhile Address.isComplete) h' := by
    simp only [h', hregister]
    exact hi.rolledBack_subscribeAll hs.allStarted addresses
  refine ⟨by rw [hregister], hrolled, ?_, ?_, hrolled.lookup?_eq hi⟩
  · intro streams h₁ hattempts
    have hfiltered := hi.rolledBack_subscribeAll hs.allStarted (addresses.filter Address.isComplete)
    rw [List.takeWhile_eq_self_iff.mpr fun a ha => (List.mem_filter.mp ha).2] at hfiltered
    rw [attemptAll_eq_subscribeAll hi] at hattempts
    cases hattempts
    exact hfiltered
  · intro a e' hfail
    rcases ha : h.subscribe a with e₀ | ⟨stream, h₀⟩
    · simp only [subscribeAll, ha, Option.some.injEq] at hfail ⊢
      rw [hfail]
    · simp [subscribeAll, ha] at hfail

/-- A monitor that shares a file, finds an observer that nobody listens to any more, and makes a new
one: the file stays, and both others go. -/
theorem register_rolledBack_shared :
    let file := Address.mk .file ["/var/log/cron"]
    let bad := Address.mk .kernelLog ["0"]
    let h := ((new .host).run [.register [file] none, .start,
      .register [.journal "kubelet"] none, .leave [1]]).hub
    let asked := [file, .journal "kubelet", .journal "kubelet", .journal "crond"]
    let r := h.register (asked ++ [bad]) none
    h.directory.values = [1, 0] ∧ r.1 = .error (.partCount bad) ∧ RolledBack h asked r.2 ∧
      r.2.directory.values = [0] ∧ r.2.observers.map Observer.isStopped = [false, true, true] := by
  intro file bad h asked r
  have hrolled := register_rolledBack .host [.register [file] none, .start,
    .register [.journal "kubelet"] none, .leave [1]] (asked ++ [bad]) none (.partCount bad) rfl
  exact ⟨by decide, hrolled.1, hrolled.2.1, by decide, by decide⟩

end Session

end Hub

end NodeWatch
