import NodeWatch.Proofs.Cron.Detector

/-!
# What the handlers of a kernel monitor produce

Each item that a handler handles has an outcome, and the monitor reports the outcome under the
handler's name (`handle_eq`). Only lines of the cron log leave something behind, which only later
lines of the cron log see.
-/

namespace NodeWatch.Monitor

open Files Text

/-- One handler for each stream of lines, and one for each periodic check. -/
inductive Handler where
  | stream (source : Source)
  | periodic (i : Fin periodicChecks.length)
  deriving DecidableEq

def Handler.name : Handler → String
  | stream .kernelLog => dmesgWorker.name
  | stream .kubelet => kubeletWorker.name
  | stream .cronLog => cronWorker.name
  | periodic i => periodicChecks[i].1

/-- A line of a stream or a tick, with the sink and the files at the moment it is handled. -/
inductive Item where
  | line (source : Source) (s : Sighting)
  | tick (i : Fin periodicChecks.length) (m : Moment)

namespace Item

def handler : Item → Handler
  | line source _ => .stream source
  | tick i _ => .periodic i

def sinkOpen : Item → Bool
  | line _ s => s.sinkOpen
  | tick _ m => m.sinkOpen

/-- The same item with the sink open. -/
def opened : Item → Item
  | line source s => .line source { s with sinkOpen := true }
  | tick i m => .tick i { m with sinkOpen := true }

/-- The entry that a line of the cron log records. -/
def recorded? : Item → Option Cron.Entry
  | line .cronLog s => Cron.recorded? s.line
  | _ => none

lemma recorded?_eq_some {item : Item} {e : Cron.Entry} (h : item.recorded? = some e) :
    ∃ s, item = .line .cronLog s ∧ Cron.recorded? s.line = some e := by
  rcases item with ⟨_ | _ | _, s⟩ | ⟨i, m⟩
  case line.cronLog => exact ⟨s, rfl, h⟩
  all_goals cases h

lemma recorded?_eq_none {item : Item} (h : item.handler ≠ .stream .cronLog) :
    item.recorded? = none := by
  rcases hitem : item.recorded? with _ | e
  · rfl
  · obtain ⟨s, rfl, -⟩ := recorded?_eq_some hitem
    exact absurd rfl h

@[simp] lemma recorded?_opened (item : Item) : item.opened.recorded? = item.recorded? := by
  rcases item with ⟨_ | _ | _, s⟩ | ⟨i, m⟩ <;> rfl

@[simp] lemma opened_sinkOpen (item : Item) : item.opened.sinkOpen = true := by
  cases item <;> rfl

end Item

namespace Kernel

/-- A monitor that has handled nothing. -/
def fresh (root : Rootfs) : Kernel :=
  { root, detector := .new }

def handle (k : Kernel) : Item → Kernel × Report
  | .line source s => k.takeLine s.sinkOpen source s.line
  | .tick i m =>
    (k, k.check m.sinkOpen m.files
      (periodicWorker k.root periodicChecks[i].1 periodicChecks[i].2))

/-- Handles items in order; gives each with its report. -/
def replay (k : Kernel) : List Item → List (Item × Report)
  | [] => []
  | item :: items =>
    let (k, report) := k.handle item
    (item, report) :: k.replay items

/-- What the handler of an item makes of it. -/
def outcome (k : Kernel) : Item → Outcome
  | .line .kernelLog s => .notifyIf s.sinkOpen (KernelLog.classify? s.line.toList)
  | .line .kubelet s => .notifyIf s.sinkOpen (Journal.classify? s.line.toList)
  | .line .cronLog s => (observeCron k.detector s).2
  | .tick i m => periodicChecks[i].2 m.sinkOpen m.files k.root

/-- What an item leaves behind. -/
def remember (k : Kernel) : Item → Kernel
  | .line .cronLog s => { k with detector := (observeCron k.detector s).1 }
  | _ => k

end Kernel

/-- The report of an outcome under the name of a handler. -/
def Outcome.report (o : Outcome) (name : String) : Report :=
  ⟨o.conditions, o.logs ++ (o.error.map fun e => Worker.failure name e.message).toList⟩

lemma step_worker {σ ι : Type} (name : String) (handle : σ → ι → σ × Outcome) (state : σ)
    (item : ι) : (worker name handle).step state item =
      ((handle state item).1, [(handle state item).2],
        ((handle state item).2.error.map fun e => Worker.failure name e.message).toList) := by
  simp [Worker.step, worker, Option.map_map, Function.comp_def]

/-- A step of a worker is reported as its one outcome. -/
lemma ofOutcomes_singleton (o : Outcome) (name : String) :
    Report.ofOutcomes [o] (o.error.map fun e => Worker.failure name e.message).toList =
      o.report name := by
  simp [Report.ofOutcomes, Outcome.report]

lemma Kernel.handle_eq {k : Kernel} (hk : k.isCancelled = false) (item : Item) :
    k.handle item = (k.remember item, (k.outcome item).report item.handler.name) := by
  have hlive : ¬ k.isCancelled = true := Bool.eq_false_iff.mp hk
  rcases item with ⟨_ | _ | _, s⟩ | ⟨i, m⟩
  case tick =>
    rw [handle, check, if_neg hlive, periodicWorker, step_worker]
    exact congrArg (Prod.mk k) (ofOutcomes_singleton ..)
  all_goals rw [handle, takeLine, if_neg hlive]
  case kernelLog =>
    rw [dmesgWorker, step_worker]
    exact congrArg (Prod.mk k) (ofOutcomes_singleton ..)
  case kubelet =>
    rw [kubeletWorker, step_worker]
    exact congrArg (Prod.mk k) (ofOutcomes_singleton ..)
  case cronLog =>
    rw [cronWorker, step_worker]
    exact Prod.ext rfl (ofOutcomes_singleton (observeCron k.detector s).2 _)

/-! ### Failures -/

/-- Whether a record tells that the handling of an item failed. -/
def isFailure (r : LogRecord) : Bool :=
  "error in handler ".toList.isPrefixOf r.text.toList

/-- The records in a report that tell of a failed handling. -/
def Report.failures (r : Report) : List LogRecord :=
  r.logs.filter isFailure

lemma isFailure_failure (name error : String) : isFailure (Worker.failure name error) = true := by
  rw [isFailure, Worker.failure, LogRecord.error, String.append_assoc, String.append_assoc,
    String.toList_append, List.isPrefixOf_iff_prefix]
  exact (List.isPrefixOf_iff_prefix.mp (by decide +kernel)).trans (List.prefix_append ..)

lemma isFailure_eq_false (level : Level) {start : String}
    (hstart : start.toList.head?.any (· ≠ 'e') = true) (rest : String) :
    isFailure ⟨level, start ++ rest⟩ = false := by
  rcases hlist : start.toList with _ | ⟨c, cs⟩
  · simp [hlist] at hstart
  · rw [hlist] at hstart
    have hc : c ≠ 'e' := by simpa using hstart
    simp [isFailure, String.toList_append, hlist, List.isPrefixOf, hc.symm]

lemma isFailure_procfsError (e : Procfs.Error) : isFailure (.error e.message) = false := by
  have hread (start rest : String) (h : start.toList.head?.any (· ≠ 'e') = true)
      (heq : e.message = start ++ rest) : isFailure (.error e.message) = false :=
    heq ▸ isFailure_eq_false .error h rest
  cases e with
  | read | list =>
    refine hread _ _ ?_ ((String.append_assoc ..).trans (String.append_assoc ..))
    decide +kernel
  | setting | state =>
    refine hread _ _ ?_
      (((String.append_assoc ..).trans (String.append_assoc ..)).trans (String.append_assoc ..))
    decide +kernel

namespace Outcome

/-- An outcome whose own records do not look like those of failed handling. -/
def IsPlain (o : Outcome) : Prop :=
  ∀ r ∈ o.logs, isFailure r = false

lemma isPlain_quiet : quiet.IsPlain :=
  nofun

lemma isPlain_fail (e : Error) : (fail e).IsPlain :=
  nofun

lemma isPlain_notify (sinkOpen : Bool) (c : Condition) : (notify sinkOpen c).IsPlain := by
  cases sinkOpen <;> exact nofun

lemma isPlain_notifyIf (sinkOpen : Bool) (c : Option Condition) :
    (notifyIf sinkOpen c).IsPlain := by
  rcases c with _ | c
  · exact isPlain_quiet
  · exact isPlain_notify sinkOpen c

lemma IsPlain.andThen {a b : Outcome} (ha : a.IsPlain) (hb : b.IsPlain) :
    (a.andThen b).IsPlain := by
  rw [Outcome.andThen]
  split
  · exact ha
  · intro r hr
    exact (List.mem_append.mp hr).elim (ha r) (hb r)

lemma isPlain_sequence {outcomes : List Outcome} (h : ∀ o ∈ outcomes, o.IsPlain) :
    (sequence outcomes).IsPlain := by
  induction outcomes with
  | nil => exact isPlain_quiet
  | cons o outcomes ih =>
    exact (h o (List.mem_cons_self ..)).andThen (ih fun o' ho' => h o' (List.mem_cons_of_mem _ ho'))

lemma isPlain_ofRead {α : Type} {f : α → Outcome} (h : ∀ a, (f a).IsPlain)
    (read : Except Procfs.Error α) : (ofRead f read).IsPlain := by
  rcases read with e | a
  · exact isPlain_fail _
  · exact h a

end Outcome

open Outcome

lemma isPlain_checkShare (sinkOpen : Bool) (setting : String) (c : Condition) (used limit : Nat) :
    (checkShare sinkOpen setting c used limit).IsPlain := by
  rw [checkShare]
  split_ifs
  · exact isPlain_fail _
  · exact isPlain_quiet
  · exact isPlain_notify _ _

lemma isPlain_checkZombies (sinkOpen : Bool) (states : List (Nat × Except Procfs.Error Char)) :
    (checkZombies sinkOpen states).IsPlain := by
  rw [checkZombies]
  refine IsPlain.andThen (fun r hr => ?logged) ?notified
  case logged =>
    obtain ⟨⟨pid, state⟩, -, hlog⟩ := List.mem_filterMap.mp hr
    rcases state with e | c
    · simp only [stateLog] at hlog
      split_ifs at hlog
      rw [← Option.some.inj hlog, LogRecord.warn]
      simp only [String.append_assoc]
      exact isFailure_eq_false _ (by decide +kernel) _
    · cases hlog
  case notified =>
    split_ifs
    · exact isPlain_quiet
    · exact isPlain_notify _ _

lemma isPlain_checkEnvironment (sinkOpen : Bool) (pid : Nat) (environ : Except Procfs.Error Bytes) :
    (checkEnvironment sinkOpen pid environ).IsPlain := by
  rcases environ with e | environ
  · simp only [checkEnvironment]
    split_ifs
    · exact isPlain_quiet
    · intro r hr
      rw [List.mem_singleton.mp hr]
      exact isFailure_procfsError e
  · simp only [checkEnvironment]
    split_ifs
    · exact isPlain_quiet
    · exact isPlain_notify _ _

lemma isPlain_periodic {name : String} {check : Bool → Tree → Rootfs → Outcome}
    (h : (name, check) ∈ periodicChecks) (sinkOpen : Bool) (files : Tree) (root : Rootfs) :
    (check sinkOpen files root).IsPlain := by
  simp only [periodicChecks, List.mem_cons, Prod.mk.injEq, List.not_mem_nil, or_false] at h
  rcases h with ⟨-, rfl⟩ | ⟨-, rfl⟩ | ⟨-, rfl⟩ | ⟨-, rfl⟩
  · exact isPlain_ofRead (fun _ => isPlain_checkShare _ _ _ _ _) _
  · exact isPlain_ofRead (fun _ => isPlain_checkZombies _ _) _
  · exact isPlain_ofRead (fun _ => isPlain_checkShare _ _ _ _ _) _
  · refine isPlain_ofRead (fun pids => isPlain_sequence fun o ho => ?_) _
    obtain ⟨visit, -, rfl⟩ := List.mem_map.mp ho
    exact isPlain_checkEnvironment _ _ _

namespace Kernel

variable {k k' : Kernel}

lemma isPlain_outcome (k : Kernel) (item : Item) : (k.outcome item).IsPlain := by
  cases item with
  | line source s =>
    cases source with
    | kernelLog => exact isPlain_notifyIf _ _
    | kubelet => exact isPlain_notifyIf _ _
    | cronLog =>
      rw [outcome, observeCron]
      split
      · split_ifs
        · exact isPlain_notify _ _
        · exact isPlain_quiet
      · exact isPlain_fail _
  | tick i m => exact isPlain_periodic (List.getElem_mem _) _ _ _

/-- An item whose handling fails gives one record of this under its handler's name; no other item
does. -/
lemma failures_report (k : Kernel) (item : Item) (name : String) :
    ((k.outcome item).report name).failures =
      ((k.outcome item).error.map fun e => Worker.failure name e.message).toList := by
  have hplain : (k.outcome item).logs.filter isFailure = [] :=
    List.filter_eq_nil_iff.mpr fun r hr => by simp [isPlain_outcome k item r hr]
  rw [Report.failures, Outcome.report, List.filter_append, hplain, List.nil_append]
  rcases (k.outcome item).error with _ | e
  · rfl
  · exact List.filter_cons_of_pos (isFailure_failure name e.message)

lemma outcome_congr {item : Item} (hroot : k.root = k'.root)
    (hdetector : item.handler = .stream .cronLog → k.detector = k'.detector) :
    k.outcome item = k'.outcome item := by
  rcases item with ⟨_ | _ | _, s⟩ | ⟨i, m⟩
  · rfl
  · rfl
  · rw [outcome, outcome, hdetector rfl]
  · rw [outcome, outcome, hroot]

lemma detector_remember_congr (h : k.detector = k'.detector) (item : Item) :
    (k.remember item).detector = (k'.remember item).detector := by
  rcases item with ⟨_ | _ | _, s⟩ | ⟨i, m⟩
  · exact h
  · exact h
  · rw [remember, remember, h]
  · exact h

/-! ### One item after the other -/

@[simp] lemma isCancelled_remember (k : Kernel) (item : Item) :
    (k.remember item).isCancelled = k.isCancelled := by
  rcases item with ⟨⟨⟩, s⟩ | ⟨i, m⟩ <;> rfl

@[simp] lemma root_remember (k : Kernel) (item : Item) : (k.remember item).root = k.root := by
  rcases item with ⟨⟨⟩, s⟩ | ⟨i, m⟩ <;> rfl

/-- The monitor after some items. -/
def after (k : Kernel) (items : List Item) : Kernel :=
  items.foldl remember k

@[simp] lemma isCancelled_after (k : Kernel) (items : List Item) :
    (k.after items).isCancelled = k.isCancelled := by
  induction items generalizing k with
  | nil => rfl
  | cons item items ih => exact (ih (k.remember item)).trans (k.isCancelled_remember item)

@[simp] lemma map_fst_replay (k : Kernel) (items : List Item) :
    (k.replay items).map Prod.fst = items := by
  induction items generalizing k with
  | nil => rfl
  | cons item items ih => rw [replay, List.map_cons, ih]

lemma replay_cons (hk : k.isCancelled = false) (item : Item) (items : List Item) :
    k.replay (item :: items) =
      (item, (k.outcome item).report item.handler.name) :: (k.remember item).replay items := by
  rw [replay, handle_eq hk]

lemma replay_append (hk : k.isCancelled = false) (items more : List Item) :
    k.replay (items ++ more) = k.replay items ++ (k.after items).replay more := by
  induction items generalizing k with
  | nil => rfl
  | cons item items ih =>
    rw [List.cons_append, replay_cons hk, replay_cons hk, ih (by simp [hk])]
    rfl

lemma after_concat (k : Kernel) (items : List Item) (item : Item) :
    k.after (items ++ [item]) = (k.after items).remember item := by
  rw [after, List.foldl_append]
  rfl

/-- A history is a replay of its items iff it is one before an item, at it and after it. -/
lemma replay_eq_iff (hk : k.isCancelled = false) {earlier later : List (Item × Report)}
    {item : Item} {r : Report} :
    k.replay ((earlier ++ (item, r) :: later).map Prod.fst) = earlier ++ (item, r) :: later ↔
      k.replay (earlier.map Prod.fst) = earlier ∧
      r = ((k.after (earlier.map Prod.fst)).outcome item).report item.handler.name ∧
      (k.after (earlier.map Prod.fst ++ [item])).replay (later.map Prod.fst) = later := by
  have hlength : (k.replay (earlier.map Prod.fst)).length = earlier.length := by
    rw [← List.length_map Prod.fst, map_fst_replay, List.length_map]
  rw [List.map_append, List.map_cons, replay_append hk, replay_cons (by simp [hk]), after_concat]
  constructor
  · intro h
    obtain ⟨hearlier, hrest⟩ := List.append_inj h hlength
    obtain ⟨hitem, hlater⟩ := List.cons.inj hrest
    exact ⟨hearlier, (Prod.mk.inj hitem).2.symm, hlater⟩
  · rintro ⟨hearlier, rfl, hlater⟩
    rw [hearlier, hlater]

/-- Monitors that remember the same of all commands, but perhaps one. -/
structure Agree (command : Option String) (k k' : Kernel) : Prop where
  root : k.root = k'.root
  live : k.isCancelled = false
  live' : k'.isCancelled = false
  last? : ∀ other, some other ≠ command → k.detector.last? other = k'.detector.last? other

end Kernel

/-- What comes of a line without an entry does not depend on the detector. -/
lemma observeCron_eq_of_recorded?_eq_none (d d' : Cron.Detector) {s : Sighting}
    (h : Cron.recorded? s.line = none) : (observeCron d s).2 = (observeCron d' s).2 := by
  rw [Cron.recorded?] at h
  rw [observeCron, observeCron, Cron.Detector.observe, Cron.Detector.observe]
  rcases hparse : Cron.Entry.parse s.line.toList with cause | found
  · rfl
  · rw [hparse] at h
    obtain rfl : found = none := h
    rfl

namespace Kernel

namespace Agree

variable {command : Option String}

lemma outcome_eq (h : Agree command k k') {item : Item}
    (hitem : ∀ e, item.recorded? = some e → some e.command ≠ command) :
    k.outcome item = k'.outcome item := by
  rcases item with ⟨_ | _ | _, s⟩ | ⟨i, m⟩
  · rfl
  · rfl
  · rcases he : Cron.recorded? s.line with _ | e
    · exact observeCron_eq_of_recorded?_eq_none _ _ he
    · rw [outcome, outcome, Cron.observeCron_of_recorded? _ he, Cron.observeCron_of_recorded? _ he,
        Cron.Detector.isTooFast, Cron.Detector.isTooFast, h.last? e.command (hitem e he)]
  · rw [outcome, outcome, h.root]

lemma remember (h : Agree command k k') (item : Item) :
    Agree command (k.remember item) (k'.remember item) := by
  refine ⟨by simp [h.root], by simp [h.live], by simp [h.live'], fun other hother => ?_⟩
  rcases item with ⟨_ | _ | _, s⟩ | ⟨i, m⟩
  · exact h.last? other hother
  · exact h.last? other hother
  · rcases he : Cron.recorded? s.line with _ | e
    · simp only [Kernel.remember, Cron.observeCron_of_recorded?_eq_none _ he]
      exact h.last? other hother
    · simp only [Kernel.remember, Cron.observeCron_of_recorded? _ he]
      by_cases hsame : other = e.command
      · rw [hsame, Cron.Detector.last?_remember_self, Cron.Detector.last?_remember_self]
      · rw [Cron.Detector.last?_remember_of_ne _ _ hsame,
          Cron.Detector.last?_remember_of_ne _ _ hsame, h.last? other hother]
  · exact h.last? other hother

/-- The next entry of the command settles what is remembered of it. -/
lemma remember_entry {item : Item} {e : Cron.Entry} (h : Agree (some e.command) k k')
    (he : item.recorded? = some e) : Agree none (k.remember item) (k'.remember item) := by
  refine ⟨by simp [h.root], by simp [h.live], by simp [h.live'], fun other _ => ?_⟩
  by_cases hsame : other = e.command
  · obtain ⟨s, rfl, hline⟩ := Item.recorded?_eq_some he
    simp only [Kernel.remember, Cron.observeCron_of_recorded? _ hline, hsame,
      Cron.Detector.last?_remember_self]
  · exact (h.remember item).last? other (by simpa using hsame)

/-- Items that are no entries of the command come to the same. -/
lemma replay_eq (h : Agree command k k') {items : List Item}
    (hitems : ∀ item ∈ items, ∀ e, item.recorded? = some e → some e.command ≠ command) :
    k.replay items = k'.replay items := by
  induction items generalizing k k' with
  | nil => rfl
  | cons item items ih =>
    rw [replay_cons h.live, replay_cons h.live', h.outcome_eq (hitems item (List.mem_cons_self ..)),
      ih (h.remember item) fun item' hmem => hitems item' (List.mem_cons_of_mem _ hmem)]

lemma after (h : Agree command k k') (items : List Item) :
    Agree command (k.after items) (k'.after items) := by
  induction items generalizing k k' with
  | nil => exact h
  | cons item items ih => exact ih (h.remember item)

end Agree

/-- What records no entry leaves nothing behind. -/
lemma remember_of_recorded?_eq_none (k : Kernel) {item : Item} (h : item.recorded? = none) :
    k.remember item = k := by
  rcases item with ⟨_ | _ | _, s⟩ | ⟨i, m⟩
  · rfl
  · rfl
  · rw [remember, Cron.observeCron_of_recorded?_eq_none _ h]
  · rfl

lemma agree_remember (hk : k.isCancelled = false) {item : Item} {e : Cron.Entry}
    (h : item.recorded? = some e) : Agree (some e.command) (k.remember item) k := by
  refine ⟨by simp, by simp [hk], hk, fun other hother => ?_⟩
  obtain ⟨s, rfl, hline⟩ := Item.recorded?_eq_some h
  rw [remember, Cron.observeCron_of_recorded? _ hline]
  exact Cron.Detector.last?_remember_of_ne _ _ (by simpa using hother)

/-- An entry is remembered also if its condition finds the sink closed. -/
lemma remember_opened (k : Kernel) {item : Item} {e : Cron.Entry} (h : item.recorded? = some e) :
    k.remember item.opened = k.remember item := by
  obtain ⟨s, rfl, hline⟩ := Item.recorded?_eq_some h
  have hopened : Cron.recorded? ({ s with sinkOpen := true } : Sighting).line = some e := hline
  rw [Item.opened, remember, remember, Cron.observeCron_of_recorded? _ hline,
    Cron.observeCron_of_recorded? _ hopened]

/-- An entry fails only where the sink is closed. -/
lemma outcome_of_entry (k : Kernel) {item : Item} {e : Cron.Entry} (h : item.recorded? = some e) :
    k.outcome item =
      if k.detector.isTooFast e then .notify item.sinkOpen Cron.tooFastCondition else .quiet := by
  obtain ⟨s, rfl, hline⟩ := Item.recorded?_eq_some h
  exact congrArg Prod.snd (Cron.observeCron_of_recorded? _ hline)

lemma conditions_of_entry (k : Kernel) {item : Item} {e : Cron.Entry} (h : item.recorded? = some e)
    (hclosed : item.sinkOpen = false) : (k.outcome item).conditions = [] := by
  rw [outcome_of_entry k h, hclosed]
  split_ifs <;> rfl

lemma error_of_entry (k : Kernel) {item : Item} {e : Cron.Entry} (h : item.recorded? = some e)
    (hopen : item.sinkOpen = true) : (k.outcome item).error = none := by
  rw [outcome_of_entry k h, hopen]
  split_ifs <;> rfl

end Kernel

namespace Item

/-- What a handler of a stream sees. -/
def sighting? (source : Source) : Item → Option Sighting
  | line other s => if other = source then some s else none
  | tick _ _ => none

end Item

/-! ### Conditions of the streams -/

/-- The conditions that a handler causes. -/
def conditionsOf (h : Handler) (history : List (Item × Report)) : List Condition :=
  (history.filter fun p => p.1.handler = h).flatMap fun p => p.2.conditions

/-- The lines that the handler of a stream sees, in order. -/
def seen (source : Source) (items : List Item) : List Sighting :=
  items.filterMap (Item.sighting? source)

lemma conditionsOf_cons (h : Handler) (item : Item) (r : Report) (history : List (Item × Report)) :
    conditionsOf h ((item, r) :: history) =
      (if item.handler = h then r.conditions else []) ++ conditionsOf h history := by
  rw [conditionsOf, List.filter_cons]
  by_cases hitem : item.handler = h <;> simp [hitem, conditionsOf]

lemma seen_cons (source : Source) (item : Item) (items : List Item) :
    seen source (item :: items) = (item.sighting? source).toList ++ seen source items := by
  rw [seen, List.filterMap_cons]
  rcases item.sighting? source with _ | s <;> rfl

lemma Item.sighting?_eq_none {source : Source} {item : Item} (h : item.handler ≠ .stream source) :
    item.sighting? source = none := by
  rcases item with ⟨other, s⟩ | ⟨i, m⟩
  · exact if_neg fun hsame => h (congrArg Handler.stream hsame)
  · rfl

lemma Outcome.conditions_notifyIf (sinkOpen : Bool) (c : Option Condition) :
    (notifyIf sinkOpen c).conditions = if sinkOpen then c.toList else [] := by
  cases c <;> cases sinkOpen <;> rfl

lemma Outcome.conditions_notify (sinkOpen : Bool) (c : Condition) :
    (notify sinkOpen c).conditions = if sinkOpen then [c] else [] := by
  cases sinkOpen <;> rfl

namespace Kernel

variable {k : Kernel}

/-- A stream whose lines are classified one by one. -/
lemma conditionsOf_classified (hk : k.isCancelled = false) {source : Source}
    {classify? : List Char → Option Condition}
    (h : ∀ (k : Kernel) s,
      k.outcome (.line source s) = .notifyIf s.sinkOpen (classify? s.line.toList))
    (items : List Item) :
    conditionsOf (.stream source) (k.replay items) = (seen source items).flatMap fun s =>
      if s.sinkOpen then (classify? s.line.toList).toList else [] := by
  induction items generalizing k with
  | nil => rfl
  | cons item items ih =>
    rw [replay_cons hk, conditionsOf_cons, ih (by simp [hk]), seen_cons, List.flatMap_append]
    by_cases hitem : item.handler = .stream source
    · rcases item with ⟨other, s⟩ | ⟨i, m⟩
      · obtain rfl : other = source := Handler.stream.inj hitem
        simp [Item.sighting?, Item.handler, Outcome.report, h, Outcome.conditions_notifyIf]
      · cases hitem
    · rw [if_neg hitem, Item.sighting?_eq_none hitem]
      rfl

end Kernel

/-- Whether each line repeats a command too early, by a detector that sees these lines alone. A line
that cannot be read does not. -/
def tooFast (d : Cron.Detector) : List String → List Bool
  | [] => []
  | line :: lines => match d.observe line.toList with
    | .ok (d, isTooFast) => isTooFast :: tooFast d lines
    | .error _ => false :: tooFast d lines

namespace Kernel

variable {k : Kernel}

lemma conditionsOf_cronLog (hk : k.isCancelled = false) (items : List Item) :
    conditionsOf (.stream .cronLog) (k.replay items) =
      ((seen .cronLog items).zip
        (tooFast k.detector ((seen .cronLog items).map Sighting.line))).flatMap
      fun (s, isTooFast) => if isTooFast && s.sinkOpen then [Cron.tooFastCondition] else [] := by
  induction items generalizing k with
  | nil => rfl
  | cons item items ih =>
    rw [replay_cons hk, conditionsOf_cons, ih (by simp [hk]), seen_cons]
    by_cases hitem : item.handler = .stream .cronLog
    · rcases item with ⟨other, s⟩ | ⟨i, m⟩
      · obtain rfl : other = .cronLog := Handler.stream.inj hitem
        rw [if_pos hitem]
        rcases hobserve : k.detector.observe s.line.toList with e | ⟨d, isTooFast⟩
        · simp [Item.sighting?, Outcome.report, outcome, remember, observeCron, hobserve, tooFast,
            Outcome.fail]
        · cases isTooFast <;>
            simp [Item.sighting?, Outcome.report, outcome, remember, observeCron, hobserve, tooFast,
              Outcome.conditions_notify, Outcome.quiet]
      · cases hitem
    · rw [if_neg hitem, Item.sighting?_eq_none hitem]
      rw [k.remember_of_recorded?_eq_none (Item.recorded?_eq_none hitem)]
      rfl

end Kernel

end NodeWatch.Monitor
