import Mathlib.Data.List.Induction
import NodeWatch.Proofs.Hub.Calls

/-!
# Streams of calls that overlap

Any number of calls are on their way, and their steps come in any order. Once all have returned, the
streams that were entered in time belong to observers of the directory, and if the hub runs, the
sources of these run (`run_keepsStreams`). This holds of all streams if no two calls overlap. If a
release comes between the first two steps of a subscription, the stream may belong to an observer
that is no longer in the directory (`not_keepsAll_overtaken`).
-/

namespace NodeWatch.Hub

open Files Resource

/-- What a hub can be asked for. -/
inductive Request where
  | subscribe (a : Address)
  /-- The end of a registration that failed. -/
  | release (addresses : List Address)
  | start

def Request.call : Request → Call
  | subscribe a => .finding a
  | release addresses => .releasing addresses
  | start => .starting

inductive Action where
  | begin (r : Request)
  /-- The call with this number goes on. If it cannot, nothing happens. -/
  | move (i : Nat) (m : Move)
  /-- Everything is told to stop. -/
  | cancel

/-- A hub and the calls to it, in the order in which they began. -/
structure Traffic where
  hub : Hub
  calls : List Call := []

namespace Traffic

def step (t : Traffic) : Action → Traffic
  | .begin r => { t with calls := t.calls ++ [r.call] }
  | .move i m => match t.calls[i]?.bind (·.move t.hub m) with
    | some (c, hub) => { hub, calls := t.calls.set i c }
    | none => t
  | .cancel => { t with hub := t.hub.cancel }

def run (root : Rootfs) (actions : List Action) : Traffic :=
  actions.foldl step { hub := .new root }

lemma run_concat (root : Rootfs) (actions : List Action) (a : Action) :
    run root (actions ++ [a]) = (run root actions).step a :=
  List.foldl_concat ..

def HaveReturned (t : Traffic) : Prop :=
  ∀ c ∈ t.calls, c.hasReturned = true

/-! ### The invariant -/

/-- What holds between any two steps. -/
structure Invariant (t : Traffic) : Prop where
  coherent : t.hub.Coherent
  sound : ∀ c ∈ t.calls, c.Sound t.hub
  /-- No two calls have one stream. -/
  distinct : (t.calls.filterMap Call.stream?).Nodup
  numbered : ∀ stream ∈ t.calls.filterMap Call.stream?, stream < t.hub.nextStream
  /-- An observer of the directory has been started, or some call will start it. -/
  owed : t.hub.isRunning = true → ∀ {a id}, t.hub.lookup? a = some id →
    id ∈ t.hub.started ∨ ∃ c ∈ t.calls, c.Owes id

lemma Invariant.new (root : Rootfs) : Invariant { hub := .new root } where
  coherent := .new root
  sound := nofun
  distinct := List.nodup_nil
  numbered := nofun
  owed := nofun

lemma Invariant.begin {t : Traffic} (hi : t.Invariant) (r : Request) :
    (t.step (.begin r)).Invariant := by
  have hstreams : (t.calls ++ [r.call]).filterMap Call.stream? =
      t.calls.filterMap Call.stream? := by
    cases r <;> simp [Request.call, Call.stream?]
  constructor
  case coherent => exact hi.coherent
  case sound =>
    refine List.forall_mem_append.mpr ⟨hi.sound, List.forall_mem_singleton.mpr ?_⟩
    cases r <;> trivial
  case distinct => exact hstreams ▸ hi.distinct
  case numbered => exact hstreams ▸ hi.numbered
  case owed =>
    intro hrunning a id hfound
    refine (hi.owed hrunning hfound).imp_right ?_
    rintro ⟨c, hc, howes⟩
    exact ⟨c, List.mem_append_left _ hc, howes⟩

section Step

variable {before after : List Call} {c c' : Call} {h h' : Hub}

lemma mem_streams_iff {stream : StreamId} :
    stream ∈ (before ++ c :: after).filterMap Call.stream? ↔
      c.stream? = some stream ∨ stream ∈ (before ++ after).filterMap Call.stream? := by
  simp only [List.filterMap_append, List.filterMap_cons, List.mem_append]
  rcases c.stream? with _ | s <;> simp [or_left_comm, eq_comm]

lemma nodup_streams_iff :
    ((before ++ c :: after).filterMap Call.stream?).Nodup ↔
      (∀ stream, c.stream? = some stream →
        stream ∉ (before ++ after).filterMap Call.stream?) ∧
      ((before ++ after).filterMap Call.stream?).Nodup := by
  rw [(List.perm_middle.filterMap Call.stream?).nodup_iff, List.filterMap_cons]
  rcases c.stream? with _ | s <;> simp

/-- One call takes a step, and the others stay where they are. -/
lemma Invariant.respects (hi : Invariant ⟨h, before ++ c :: after⟩) (hm : Respects c c' h h') :
    Invariant ⟨h', before ++ c' :: after⟩ := by
  obtain ⟨hown, hothers⟩ := nodup_streams_iff.mp hi.distinct
  have hnumbered := fun stream => hi.numbered stream
  simp only [mem_streams_iff] at hnumbered
  constructor
  case coherent => exact hm.coherent
  case sound =>
    have hsound : ∀ d ∈ before ++ after, d.Sound h' := by
      intro d hd
      have hbefore : d.Sound h := hi.sound d (by grind)
      refine hbefore.keeps hm.keeps fun stream hstream heq => hown stream heq ?_
      exact List.mem_filterMap.mpr ⟨d, hd, hstream⟩
    obtain ⟨hbefore, hafter⟩ := List.forall_mem_append.mp hsound
    exact List.forall_mem_append.mpr ⟨hbefore, List.forall_mem_cons.mpr ⟨hm.sound, hafter⟩⟩
  case distinct =>
    refine nodup_streams_iff.mpr ⟨fun stream hstream hmem => ?_, hothers⟩
    rcases hm.stream stream hstream with hold | ⟨hnew, -⟩
    · exact hown stream hold hmem
    · exact absurd (hnumbered stream (.inr hmem)) (Nat.not_lt.mpr hnew)
  case numbered =>
    intro stream hstream
    rcases mem_streams_iff.mp hstream with hmine | hother
    · rcases hm.stream stream hmine with hold | ⟨-, hnew⟩
      · exact Nat.lt_of_lt_of_le (hnumbered stream (.inl hold)) hm.keeps.nextStream_le
      · exact hnew
    · exact Nat.lt_of_lt_of_le (hnumbered stream (.inr hother)) hm.keeps.nextStream_le
  case owed =>
    intro hrunning a id hfound
    rcases hm.owed hrunning hfound with hstarted | howes | ⟨hran, hwas, hnot⟩
    · exact .inl hstarted
    · exact .inr ⟨c', by simp, howes⟩
    · rcases hi.owed hran hwas with hstarted | ⟨d, hd, howes⟩
      · exact .inl (hm.keeps.started hstarted)
      · -- the call that owes the start is another one
        have hne : d ≠ c := by
          rintro rfl
          exact hnot howes
        exact .inr ⟨d, by grind, howes⟩

end Step

lemma Invariant.step {t : Traffic} (hi : t.Invariant) (action : Action) :
    (t.step action).Invariant := by
  cases action with
  | begin r => exact hi.begin r
  | move i m =>
    rw [Traffic.step]
    split
    · next c' h' hmove =>
      obtain ⟨c, hc, hmove⟩ := Option.bind_eq_some_iff.mp hmove
      obtain ⟨hlt, rfl⟩ := List.getElem?_eq_some_iff.mp hc
      have hsplit : t.calls = t.calls.take i ++ t.calls[i] :: t.calls.drop (i + 1) := by simp
      have hold : Invariant ⟨t.hub, t.calls.take i ++ t.calls[i] :: t.calls.drop (i + 1)⟩ := by
        rwa [← hsplit]
      rw [List.set_eq_take_append_cons_drop, if_pos hlt]
      have hsound := hi.sound _ (List.getElem_mem hlt)
      exact hold.respects (respects_of_steps hi.coherent hsound (steps_of_move hmove))
    · exact hi
  | cancel => exact {
      coherent := hi.coherent.cancel
      sound := fun c hc => (hi.sound c hc).keeps (.cancel none t.hub) fun _ _ => nofun
      distinct := hi.distinct
      numbered := hi.numbered
      owed := hi.owed }

lemma Invariant.run (root : Rootfs) (actions : List Action) : (run root actions).Invariant := by
  induction actions using List.reverseRecOn with
  | nil => exact .new root
  | append_singleton actions action ih =>
    rw [run_concat]
    exact ih.step action

/-- Unless everything is told to stop, nothing but releases stops a source. -/
lemma isCancelled_run (root : Rootfs) {actions : List Action}
    (hcancel : .cancel ∉ actions) : (run root actions).hub.isCancelled = false := by
  induction actions using List.reverseRecOn with
  | nil => rfl
  | append_singleton actions action ih =>
    rw [List.mem_append, List.mem_singleton, not_or] at hcancel
    have hold := ih hcancel.1
    have hi := Invariant.run root actions
    rw [run_concat]
    cases action with
    | begin r => exact hold
    | move i m =>
      rw [step]
      split
      · next c' h' hmove =>
        obtain ⟨c, hc, hmove⟩ := Option.bind_eq_some_iff.mp hmove
        have hsound := hi.sound c (List.mem_of_getElem? hc)
        exact (respects_of_steps hi.coherent hsound (steps_of_move hmove)).isCancelled_eq.trans hold
      · exact hold
    | cancel => exact absurd rfl hcancel.2

/-! ### Calls that do not disturb each other -/

/-- Whether a release comes to an address while a subscription has found the observer of the same
address, and has not entered its stream. -/
def Disturbs (t : Traffic) : Action → Prop
  | .move i _ => ∃ a addresses id,
    t.calls[i]? = some (.releasing (a :: addresses)) ∧ .entering a id ∈ t.calls
  | .begin _ | .cancel => False

def IsUndisturbed (root : Rootfs) (actions : List Action) : Prop :=
  ∀ earlier action later, actions = earlier ++ action :: later →
    ¬ (run root earlier).Disturbs action

/-- Whether each call begins only when all others have returned. -/
def IsSequential (root : Rootfs) (actions : List Action) : Prop :=
  ∀ earlier r later, actions = earlier ++ .begin r :: later → (run root earlier).HaveReturned

end Traffic

/-- Whether a subscription still finds what it found, and enters its stream in time. -/
def Call.IsPrompt (h : Hub) : Call → Prop
  | entering a id => h.lookup? a = some id
  | joined _ _ _ inTime | subscribed _ _ inTime => inTime = true
  | _ => True

section Step

variable {c c' : Call} {h h' : Hub}

lemma Call.IsPrompt.congr (hc : c.IsPrompt h)
    (hlookup : ∀ a id, c = .entering a id → h.lookup? a = some id → h'.lookup? a = some id) :
    c.IsPrompt h' := by
  cases c with
  | entering a id => exact hlookup a id rfl hc
  | joined | subscribed => exact hc
  | finding | releasing | stopping | starting | visiting | done => trivial

lemma Call.IsPrompt.steps (hc : c.IsPrompt h) (hsteps : Steps h c c' h') : c'.IsPrompt h' := by
  cases hsteps with
  | find hf =>
    rcases findOrMake_cases hf with ⟨hfound, rfl⟩ | ⟨-, -, rfl, source, rfl⟩
    · exact hfound
    · exact (lookup?_make _ _ source _).trans (if_pos rfl)
  | enter => exact decide_eq_true hc
  | join => exact hc
  | refuse | leave | released | spare | remove | stop | run | visit | finish => trivial

lemma lookup?_removeIfIdle_of_ne {a b : Address} {gone? : Option ObserverId}
    (hr : h.removeIfIdle b = (gone?, h')) (hne : a ≠ b) : h'.lookup? a = h.lookup? a := by
  rcases h.removeIfIdle_cases b with ⟨heq, -⟩ | ⟨id, o, -, -, ⟨-, heq⟩ | ⟨-, heq⟩⟩ <;>
    rw [heq] at hr <;> cases hr
  · rfl
  · rfl
  · exact (lookup?_without _ b a).trans (if_neg hne)

/-- Only a release that comes to an address takes its observer out. -/
lemma Steps.lookup?_eq_some (hsteps : Steps h c c' h') {a : Address} {id : ObserverId}
    (hc : ∀ addresses, c ≠ .releasing (a :: addresses)) (hfound : h.lookup? a = some id) :
    h'.lookup? a = some id := by
  cases hsteps with
  | find hf =>
    rcases findOrMake_cases hf with ⟨-, rfl⟩ | ⟨hnone, -, rfl, source, rfl⟩
    · exact hfound
    · rw [lookup?_make, if_neg, hfound]
      rintro rfl
      rw [hnone] at hfound
      cases hfound
  | join =>
    rw [startIfRunning]
    split_ifs
    · rwa [lookup?_startObserver]
    · exact hfound
  | spare hr | remove hr =>
    rwa [lookup?_removeIfIdle_of_ne hr]
    rintro rfl
    exact hc _ rfl
  | visit => rwa [lookup?_startObserver]
  | refuse | enter | leave | released | stop | run | finish => exact hfound

end Step

namespace Traffic

lemma forall_isPrompt_step {t : Traffic} (hprompt : ∀ c ∈ t.calls, c.IsPrompt t.hub)
    {action : Action} (hundisturbed : ¬ t.Disturbs action) :
    ∀ c ∈ (t.step action).calls, c.IsPrompt (t.step action).hub := by
  cases action with
  | begin r =>
    refine List.forall_mem_append.mpr ⟨hprompt, List.forall_mem_singleton.mpr ?_⟩
    cases r <;> trivial
  | move i m =>
    rw [step]
    split
    · next c' h' hmove =>
      obtain ⟨c, hc, hmove⟩ := Option.bind_eq_some_iff.mp hmove
      have hsteps := steps_of_move hmove
      intro d hd
      rcases List.mem_or_eq_of_mem_set hd with hold | rfl
      · refine (hprompt d hold).congr fun a id hentering hfound => ?_
        refine hsteps.lookup?_eq_some (fun addresses hreleasing => hundisturbed ?_) hfound
        exact ⟨a, addresses, id, hreleasing ▸ hc, hentering ▸ hold⟩
      · exact (hprompt c (List.mem_of_getElem? hc)).steps hsteps
    · exact hprompt
  | cancel => exact fun c hc => (hprompt c hc).congr fun _ _ _ hfound => hfound

lemma inTime_of_isUndisturbed {root : Rootfs} {actions : List Action}
    (hundisturbed : IsUndisturbed root actions) {a : Address} {stream : StreamId} {inTime : Bool}
    (hc : .subscribed a stream inTime ∈ (run root actions).calls) : inTime = true := by
  have hprompt : ∀ c ∈ (run root actions).calls, c.IsPrompt (run root actions).hub := by
    clear hc
    induction actions using List.reverseRecOn with
    | nil => exact nofun
    | append_singleton actions action ih =>
      rw [run_concat]
      refine forall_isPrompt_step (ih fun earlier next later heq => ?_)
        (hundisturbed actions action [] rfl)
      exact hundisturbed earlier next (later ++ [action]) (by rw [heq, List.append_assoc]; rfl)
  exact hprompt _ hc

/-- At most one call is on its way. -/
def IsCalm (t : Traffic) : Prop :=
  ∃ k : Nat, ∀ i c, t.calls[i]? = some c → i ≠ k → c.hasReturned = true

lemma IsCalm.step {t : Traffic} (hc : t.IsCalm) {action : Action}
    (hbegin : ∀ r, action = .begin r → t.HaveReturned) : (t.step action).IsCalm := by
  obtain ⟨k, hk⟩ := hc
  cases action with
  | begin r =>
    refine ⟨t.calls.length, fun i c hi hne => ?_⟩
    rw [Traffic.step] at hi
    rcases Nat.lt_or_gt_of_ne hne with hlt | hgt
    · rw [List.getElem?_append_left hlt] at hi
      exact hbegin r rfl c (List.mem_of_getElem? hi)
    · rw [List.getElem?_eq_none (by simpa using Nat.succ_le_of_lt hgt)] at hi
      cases hi
  | move i m =>
    rw [Traffic.step]
    split
    · next c' h' hmove =>
      obtain ⟨c, hfound, hmove⟩ := Option.bind_eq_some_iff.mp hmove
      refine ⟨k, fun j d hd hne => ?_⟩
      rw [List.getElem?_set] at hd
      split_ifs at hd with hj
      · -- a call that has returned can only lose its stream
        cases hd
        have hreturned := hk i c hfound (hj ▸ hne)
        cases steps_of_move hmove with
        | leave => rfl
        | refuse | find | enter | join | released | spare | remove | stop | run | visit | finish =>
          cases hreturned
      · exact hk j d hd hne
    · exact ⟨k, hk⟩
  | cancel => exact ⟨k, hk⟩

lemma IsSequential.isUndisturbed {root : Rootfs} {actions : List Action}
    (hsequential : IsSequential root actions) : IsUndisturbed root actions := by
  have hcalm : ∀ earlier later, actions = earlier ++ later → (run root earlier).IsCalm := by
    intro earlier
    induction earlier using List.reverseRecOn with
    | nil => exact fun _ _ => ⟨0, nofun⟩
    | append_singleton earlier action ih =>
      intro later heq
      rw [List.append_assoc] at heq
      rw [run_concat]
      exact (ih _ heq).step fun r hr => hsequential earlier r later (hr ▸ heq)
  rintro earlier action later heq hdisturbs
  obtain ⟨k, hk⟩ := hcalm earlier _ heq
  cases action with
  | move i m =>
    obtain ⟨a, addresses, id, hreleasing, hentering⟩ := hdisturbs
    obtain ⟨j, hj⟩ := List.mem_iff_getElem?.mp hentering
    have hi : i = k := by_contra fun hne => nomatch hk i _ hreleasing hne
    have hjk : j = k := by_contra fun hne => nomatch hk j _ hj hne
    rw [hi, ← hjk, hj] at hreleasing
    cases hreleasing
  | begin | cancel => exact hdisturbs

end Traffic

/-! ### Streams that are kept -/

/-- The stream belongs to the observer that the directory has for its address. If the hub runs, the
source of this observer has been started once, and not been stopped. -/
def IsKept (h : Hub) (a : Address) (stream : StreamId) : Prop :=
  ∃ id o, h.lookup? a = some id ∧ h.observer? id = some o ∧ o.address = a ∧
    stream ∈ o.broadcaster.listeners ∧
    (h.isRunning = true → h.started.count id = 1 ∧ o.isStarted = true ∧ o.isStopped = false)

namespace Traffic

lemma Invariant.not_owed {t : Traffic} (hreturned : t.HaveReturned) (id : ObserverId) :
    ¬ ∃ c ∈ t.calls, c.Owes id := by
  rintro ⟨c, hc, howes⟩
  have hback := hreturned c hc
  cases c with
  | subscribed | done | finding | releasing | stopping | starting => exact howes
  | entering | joined | visiting => cases hback

lemma Invariant.isKept {t : Traffic} (hi : t.Invariant) (hreturned : t.HaveReturned) {a : Address}
    {stream : StreamId} (hserves : t.hub.Serves a stream) : t.hub.IsKept a stream := by
  obtain ⟨id, o, hfound, ho, hlistens⟩ := hserves
  have haddress : o.address = a := by
    obtain ⟨o', ho', haddress⟩ := hi.coherent.found hfound
    rw [ho] at ho'
    cases ho'
    exact haddress
  refine ⟨id, o, hfound, ho, haddress, hlistens, fun hrunning => ?_⟩
  have hstarted : id ∈ t.hub.started :=
    (hi.owed hrunning hfound).resolve_right (Invariant.not_owed hreturned id)
  obtain ⟨o', ho', hrun⟩ := hi.coherent.mem_started.mp hstarted
  rw [ho] at ho'
  cases ho'
  exact ⟨List.count_eq_one_of_mem hi.coherent.startedOnce hstarted, hrun,
    hi.coherent.unstopped hfound ho⟩

/-- Once all calls have returned, whatever the order of their steps: a stream whose receiver is
alive is kept if it was entered while the directory led to its observer. All of them are kept if no
release comes between the first two steps of a subscription to the same address, so also if no two
calls overlap. Unless everything is told to stop, nothing but a release stops a source. -/
theorem run_keepsStreams (root : Rootfs) (actions : List Action)
    (hreturned : (run root actions).HaveReturned) :
    (∀ a stream inTime, .subscribed a stream inTime ∈ (run root actions).calls →
      inTime = true ∨ IsUndisturbed root actions → (run root actions).hub.IsKept a stream) ∧
    (IsSequential root actions → IsUndisturbed root actions) ∧
    (.cancel ∉ actions → (run root actions).hub.isCancelled = false) := by
  have hi := Invariant.run root actions
  refine ⟨fun a stream inTime hc htime => ?_, IsSequential.isUndisturbed, isCancelled_run root⟩
  have hserves := hi.sound _ hc
  exact hi.isKept hreturned (hserves (htime.elim id fun h => inTime_of_isUndisturbed h hc))

def log : Address :=
  ⟨.file, ["/a.log"]⟩

/-- Two subscriptions to a file, a start, and a release that finds somebody listening. -/
def overlapping : List Action :=
  [.begin (.subscribe log), .move 0 .advance, .begin .start, .move 1 .advance,
    .begin (.subscribe log), .move 2 .advance, .move 0 .advance, .move 1 (.visit log),
    .begin (.release [log]), .move 3 .advance, .move 2 .advance, .move 1 .advance,
    .move 3 .advance, .move 2 .advance, .move 0 .advance]

theorem run_keepsStreams_overlapping :
    (run .host overlapping).HaveReturned ∧ (run .host overlapping).hub.isRunning = true ∧
      (run .host overlapping).hub.IsKept log 0 ∧ (run .host overlapping).hub.IsKept log 1 := by
  have hcalls : (run .host overlapping).calls =
      [.subscribed log 0 true, .done, .subscribed log 1 true, .done] := by
    decide
  have hreturned : (run .host overlapping).HaveReturned := by
    rw [HaveReturned, hcalls]
    decide
  have hkept := (run_keepsStreams .host overlapping hreturned).1
  rw [hcalls] at hkept
  exact ⟨hreturned, by decide, hkept log 0 true (by decide) (.inl rfl),
    hkept log 1 true (by decide) (.inl rfl)⟩

/-- Whether every stream that a subscription returned is kept, and no source is cancelled. -/
def KeepsAll (t : Traffic) : Prop :=
  ∀ a stream inTime, .subscribed a stream inTime ∈ t.calls →
    t.hub.IsKept a stream ∧ (t.hub.isRunning = true → t.hub.isCancelled = false)

/-- The first subscription makes the observer. Before it enters its stream, a monitor that
subscribes to the same file fails, so that the file is released and the observer is taken out. -/
def overtaken : List Action :=
  [.begin (.subscribe log), .move 0 .advance,
    .begin (.subscribe log), .move 1 .advance, .move 1 .advance, .move 1 .advance, .move 1 .leave,
    .begin (.release [log]), .move 2 .advance, .move 2 .advance, .move 2 .advance,
    .move 0 .advance, .move 0 .advance,
    .begin .start, .move 3 .advance, .move 3 .advance]

/-- The stream that the first subscription returns is in no observer of the directory. -/
theorem not_keepsAll_overtaken :
    ¬ ((run .host overtaken).HaveReturned → (run .host overtaken).KeepsAll) := by
  have hcalls : (run .host overtaken).calls = [.subscribed log 1 false, .done, .done, .done] := by
    decide
  have hgone : (run .host overtaken).hub.lookup? log = none := by decide
  intro hall
  have hreturned : (run .host overtaken).HaveReturned := by
    rw [HaveReturned, hcalls]
    decide
  obtain ⟨⟨id, o, hfound, -⟩, -⟩ := hall hreturned log 1 false (by rw [hcalls]; decide)
  rw [hgone] at hfound
  cases hfound

end Traffic

end NodeWatch.Hub
