import Mathlib.Data.List.Induction
import Mathlib.Data.List.Nodup
import Mathlib.Data.List.Perm.Basic
import Mathlib.Tactic.Common
import NodeWatch.Plugin.Registry

/-!
# Runs of the registry

A run is any list of calls on the shared registry. Callers that call at the same time take effect one
after the other, each at its insert, since no check that comes before it looks at the registry; so
the list stands for any order of their inserts. What one call does is read off `Steps`, and the main
statement is `SharedRegistry.run_keepsFirst`.
-/

namespace NodeWatch.Plugin

inductive Call where
  | register (p : Plugin)
  | registerChecked (p : Plugin)
  /-- Registers a plugin that the program cannot do without. -/
  | require (p : Plugin)
  | builtin (root : Rootfs)

inductive Answer where
  | ok
  | refused (fault : Error)
  /-- The program stops with a message. -/
  | stopped (message : String)
  deriving DecidableEq

namespace Call

/-- The plugin that the call is about. -/
def plugin : Call → Plugin
  | register p | registerChecked p | require p => p
  | builtin root => Plugin.builtin root

end Call

namespace SharedRegistry

/-- The answer when the registry takes a plugin or refuses it, and what it leaves. -/
def answer (s : SharedRegistry) (failure : Error → Answer) :
    Except Error Registry → Answer × SharedRegistry
  | .ok registry => (.ok, { s with registry })
  | .error fault => (failure fault, s)

def call (s : SharedRegistry) : Call → Answer × SharedRegistry
  | .register p => s.answer .refused (s.registry.register p)
  | .registerChecked p => s.answer .refused (s.registry.registerChecked p)
  | .require p =>
    s.answer (fun fault => .stopped (Registry.requiredMessage fault)) (s.registry.register p)
  | .builtin root => match s.requireBuiltin root with
    | (none, s) => (.ok, s)
    | (some message, s) => (.stopped message, s)

/-- The calls with their answers, and the registry that they leave. -/
def run (s : SharedRegistry) : List Call → List (Call × Answer) × SharedRegistry
  | [] => ([], s)
  | c :: calls =>
    let (answer, s) := s.call c
    let (answered, s) := s.run calls
    ((c, answer) :: answered, s)

lemma run_concat (s : SharedRegistry) (calls : List Call) (c : Call) :
    s.run (calls ++ [c]) = ((s.run calls).1 ++ [(c, ((s.run calls).2.call c).1)],
      ((s.run calls).2.call c).2) := by
  induction calls generalizing s with
  | nil => rfl
  | cons c' calls ih => simp only [List.cons_append, run, ih]

end SharedRegistry

/-- The plugin of the first call that succeeded for a name. -/
def firstSuccess? (answered : List (Call × Answer)) (name : String) : Option Plugin :=
  (answered.find? fun (c, answer) => answer = .ok ∧ c.plugin.name = name).map fun (c, _) => c.plugin

lemma firstSuccess?_concat (answered : List (Call × Answer)) (c : Call) (answer : Answer)
    (name : String) : firstSuccess? (answered ++ [(c, answer)]) name =
      (firstSuccess? answered name).or
        (if answer = .ok ∧ c.plugin.name = name then some c.plugin else none) := by
  rw [firstSuccess?, List.find?_append, Option.map_or]
  by_cases h : answer = .ok ∧ c.plugin.name = name <;> simp [firstSuccess?, h]

namespace Registry

variable (r : Registry) (p : Plugin)

lemma register_eq_ok_iff {r' : Registry} : r.register p = .ok r' ↔
    p.name ≠ "" ∧ r.get? p.name = none ∧ r' = ⟨r.plugins ++ [p]⟩ := by
  rw [register]
  by_cases hname : p.name = ""
  · simp [hname]
  · rcases hget : r.get? p.name with _ | q
    · simpa [hname] using eq_comm
    · simp [hname]

lemma registerChecked_eq_ok_iff {r' : Registry} : r.registerChecked p = .ok r' ↔
    p.check = .ok () ∧ r.register p = .ok r' := by
  rw [registerChecked]
  rcases p.check with fault | ⟨⟩ <;> simp

lemma get?_concat (name : String) : (Registry.mk (r.plugins ++ [p])).get? name =
    (r.get? name).or (if p.name = name then some p else none) := by
  rw [get?, List.find?_append]
  by_cases h : p.name = name <;> simp [get?, h]

lemma get?_eq_none_iff {name : String} :
    r.get? name = none ↔ name ∉ r.plugins.map Plugin.name := by
  simp [get?, List.find?_eq_none]

variable {r}

lemma get?_eq_some_of_mem (hdistinct : (r.plugins.map Plugin.name).Nodup) (hp : p ∈ r.plugins) :
    r.get? p.name = some p := by
  rcases hget : r.get? p.name with _ | q
  · exact absurd (List.mem_map_of_mem hp) (r.get?_eq_none_iff.mp hget)
  · have hq : q.name = p.name := by simpa using List.find?_some hget
    rw [List.inj_on_of_nodup_map hdistinct (List.mem_of_find?_eq_some hget) hp hq]

lemma map_name_filterMap_get? {names : List String} (hall : ∀ name ∈ names, (r.get? name).isSome) :
    (names.filterMap r.get?).map Plugin.name = names := by
  induction names with
  | nil => rfl
  | cons name names ih =>
    obtain ⟨p, hget⟩ := Option.isSome_iff_exists.mp (hall name (List.mem_cons_self ..))
    have hname : p.name = name := by simpa using List.find?_some hget
    rw [List.filterMap_cons_some hget, List.map_cons, hname,
      ih fun name hmem => hall name (List.mem_cons_of_mem _ hmem)]

/-- The plugins that are found under the names, whatever the order of the names. -/
lemma filterMap_get?_perm (hdistinct : (r.plugins.map Plugin.name).Nodup) {names : List String}
    (hnames : names.Nodup) (hall : ∀ name, name ∈ names ↔ (r.get? name).isSome) :
    (names.filterMap r.get?).Perm r.plugins := by
  have hperm : names.Perm (r.plugins.map Plugin.name) := by
    refine (List.perm_ext_iff_of_nodup hnames hdistinct).mpr fun name => ?_
    rw [hall, Option.isSome_iff_ne_none, ne_eq, r.get?_eq_none_iff, not_not]
  have hfound : (r.plugins.map Plugin.name).filterMap r.get? = r.plugins := by
    rw [List.filterMap_map]
    exact (List.filterMap_congr fun p hp => get?_eq_some_of_mem p hdistinct hp).trans
      List.filterMap_some
  exact hfound ▸ hperm.filterMap r.get?

end Registry

/-! ### One call -/

lemma builtin_name_ne (root : Rootfs) : (builtin root).name ≠ "" := by
  simp [builtin]

namespace SharedRegistry

/-- What a call may answer and do. -/
inductive Steps : Call → Answer → SharedRegistry → SharedRegistry → Prop
  | entered {c : Call} {s : SharedRegistry} {hasBuiltin : Bool} :
      c.plugin.name ≠ "" → s.registry.get? c.plugin.name = none →
      (hasBuiltin = true ↔ s.hasBuiltin = true ∨ ∃ root, c = .builtin root) →
      (∀ root, c = .builtin root → s.isPoisoned = false) →
      Steps c .ok s { s with registry := ⟨s.registry.plugins ++ [c.plugin]⟩, hasBuiltin }
  | refused {c : Call} {answer : Answer} {s : SharedRegistry} :
      (∀ root, c ≠ .builtin root) → answer ≠ .ok → Steps c answer s s
  /-- The built-in plugin is asked for once more. -/
  | again {root : Rootfs} {s : SharedRegistry} :
      s.hasBuiltin = true → s.isPoisoned = false → Steps (.builtin root) .ok s s
  | stopped {root : Rootfs} {s : SharedRegistry} :
      s.hasBuiltin = false → s.isPoisoned = false →
      (s.registry.get? (builtin root).name).isSome →
      Steps (.builtin root)
        (.stopped (Registry.requiredMessage (.duplicatePlugin (builtin root).name)))
        s { s with isPoisoned := true }
  | poisoned {root : Rootfs} {s : SharedRegistry} :
      s.isPoisoned = true → Steps (.builtin root) (.stopped poisonedMessage) s s

variable {s s' : SharedRegistry} {c : Call} {answer : Answer}

lemma steps_answer {failure : Error → Answer} {entry : Except Error Registry}
    (hc : ∀ root, c ≠ .builtin root) (hfailure : ∀ fault, failure fault ≠ .ok)
    (hentry : ∀ r, entry = .ok r → s.registry.register c.plugin = .ok r) :
    Steps c (s.answer failure entry).1 s (s.answer failure entry).2 := by
  rcases entry with fault | r
  · exact .refused hc (hfailure fault)
  · obtain ⟨hname, hfree, rfl⟩ := (s.registry.register_eq_ok_iff _).mp (hentry r rfl)
    exact .entered hname hfree (by simp [hc]) fun root hroot => absurd hroot (hc root)

lemma steps_call (s : SharedRegistry) (c : Call) : Steps c (s.call c).1 s (s.call c).2 := by
  cases c with
  | register p => exact steps_answer nofun nofun fun _ hreg => hreg
  | registerChecked p =>
    exact steps_answer nofun nofun fun _ hreg =>
      ((s.registry.registerChecked_eq_ok_iff p).mp hreg).2
  | require p => exact steps_answer nofun nofun fun _ hreg => hreg
  | builtin root =>
    by_cases hpoisoned : s.isPoisoned = true
    · rw [call, requireBuiltin, if_pos hpoisoned]
      exact .poisoned hpoisoned
    · rw [call, requireBuiltin, if_neg hpoisoned, registerBuiltin]
      rw [Bool.not_eq_true] at hpoisoned
      by_cases hhas : s.hasBuiltin = true
      · rw [if_pos hhas]
        exact .again hhas hpoisoned
      · rw [if_neg hhas]
        by_cases hget : s.registry.get? (builtin root).name = none
        · rw [((s.registry.register_eq_ok_iff _).mpr ⟨builtin_name_ne root, hget, rfl⟩ :)]
          exact .entered (builtin_name_ne root) hget (by simp) fun _ _ => hpoisoned
        · have htaken := Option.isSome_iff_ne_none.mpr hget
          have hreg : s.registry.register (builtin root) =
              .error (.duplicatePlugin (builtin root).name) := by
            simp [Registry.register, builtin_name_ne, htaken]
          rw [hreg]
          exact .stopped (Bool.eq_false_iff.mpr hhas) hpoisoned htaken

/-- A call that does not succeed leaves what has been entered as it is. -/
lemma Steps.of_ne_ok (h : Steps c answer s s') (hanswer : answer ≠ .ok) :
    s'.registry = s.registry ∧ s'.hasBuiltin = s.hasBuiltin ∧
      ((∀ root, c ≠ .builtin root) → s' = s) := by
  cases h with
  | entered | again => exact absurd rfl hanswer
  | refused | poisoned => exact ⟨rfl, rfl, fun _ => rfl⟩
  | @stopped root => exact ⟨rfl, rfl, fun hc => absurd rfl (hc root)⟩

lemma fst_answer_eq_ok_iff (failure : Error → Answer) {entry : Except Error Registry}
    (hfailure : ∀ fault, failure fault ≠ .ok) :
    (s.answer failure entry).1 = .ok ↔ ∃ r, entry = .ok r := by
  rcases entry with fault | r <;> simp [SharedRegistry.answer, hfailure]

lemma answer_register_eq_ok_iff {p : Plugin} :
    (s.call (.register p)).1 = .ok ↔ p.name ≠ "" ∧ s.registry.get? p.name = none := by
  rw [call, fst_answer_eq_ok_iff .refused nofun]
  simp [Registry.register_eq_ok_iff]

lemma answer_registerChecked_eq_ok_iff {p : Plugin} : (s.call (.registerChecked p)).1 = .ok ↔
    p.name ≠ "" ∧ s.registry.get? p.name = none ∧ p.check = .ok () := by
  rw [call, fst_answer_eq_ok_iff .refused nofun]
  simp [Registry.registerChecked_eq_ok_iff, Registry.register_eq_ok_iff]
  tauto

/-! ### Runs -/

/-- What holds after calls that were answered so. -/
structure Invariant (answered : List (Call × Answer)) (s : SharedRegistry) : Prop where
  named : ∀ p ∈ s.registry.plugins, p.name ≠ ""
  distinct : (s.registry.plugins.map Plugin.name).Nodup
  first : ∀ name, s.registry.get? name = firstSuccess? answered name
  /-- After a call for the built-in plugin its name is taken, by whatever plugin. -/
  taken : ∀ root answer, (.builtin root, answer) ∈ answered →
    (s.registry.get? (builtin root).name).isSome
  hasBuiltin : s.hasBuiltin = true ↔ ∃ root, (.builtin root, .ok) ∈ answered
  isPoisoned : s.isPoisoned = true ↔
    ∃ root answer, (.builtin root, answer) ∈ answered ∧ answer ≠ .ok
  once : s.hasBuiltin = true → s.isPoisoned = false

namespace Invariant

variable {answered : List (Call × Answer)}

lemma start : Invariant [] {} where
  named := by simp
  distinct := List.nodup_nil
  first _ := rfl
  taken := by simp
  hasBuiltin := by simp
  isPoisoned := by simp
  once := nofun

lemma first_concat_of_ne_ok (hi : Invariant answered s) (hanswer : answer ≠ .ok) (name : String) :
    s.registry.get? name = firstSuccess? (answered ++ [(c, answer)]) name := by
  rw [firstSuccess?_concat, if_neg fun hok => hanswer hok.1, Option.or_none, hi.first]

lemma isPoisoned_concat_ok (hi : Invariant answered s) : s.isPoisoned = true ↔
    ∃ root answer, (.builtin root, answer) ∈ answered ++ [(c, .ok)] ∧ answer ≠ .ok := by
  rw [hi.isPoisoned]
  refine exists₂_congr fun root answer => and_congr_left fun hanswer => ?_
  simp [hanswer]

lemma entered (hi : Invariant answered s) {has : Bool} (hname : c.plugin.name ≠ "")
    (hfree : s.registry.get? c.plugin.name = none)
    (hhas : has = true ↔ s.hasBuiltin = true ∨ ∃ root, c = .builtin root)
    (hpoisoned : ∀ root, c = .builtin root → s.isPoisoned = false) :
    Invariant (answered ++ [(c, .ok)])
      { s with registry := ⟨s.registry.plugins ++ [c.plugin]⟩, hasBuiltin := has } where
  named p hp := by
    rcases List.mem_append.mp hp with hp | hp
    · exact hi.named p hp
    · rwa [List.mem_singleton.mp hp]
  distinct := by
    rw [List.map_append, List.nodup_append]
    refine ⟨hi.distinct, List.nodup_singleton _, fun name hmem name' hname' heq => ?_⟩
    rw [List.mem_singleton.mp hname'] at heq
    exact s.registry.get?_eq_none_iff.mp hfree (heq ▸ hmem)
  first name := by
    rw [Registry.get?_concat, firstSuccess?_concat, hi.first]
    simp
  taken root answer hmem := by
    rw [Registry.get?_concat]
    rcases List.mem_append.mp hmem with hmem | hmem
    · rw [Option.isSome_or, hi.taken root answer hmem, Bool.true_or]
    · obtain ⟨rfl, -⟩ := Prod.mk.inj (List.mem_singleton.mp hmem)
      simp [Call.plugin]
  hasBuiltin := by
    simp only [List.mem_append, List.mem_singleton, Prod.mk.injEq, and_true, exists_or]
    rw [hhas, hi.hasBuiltin]
    simp only [eq_comm]
  isPoisoned := hi.isPoisoned_concat_ok
  once hhas' := by
    rcases hhas.mp hhas' with hhas | ⟨root, hroot⟩
    · exact hi.once hhas
    · exact hpoisoned root hroot

lemma refused (hi : Invariant answered s) (hc : ∀ root, c ≠ .builtin root)
    (hanswer : answer ≠ .ok) : Invariant (answered ++ [(c, answer)]) s := by
  have hmem (root : Rootfs) (answer' : Answer) :
      (.builtin root, answer') ∈ answered ++ [(c, answer)] ↔
        (.builtin root, answer') ∈ answered := by
    simp [(hc root).symm]
  refine ⟨hi.named, hi.distinct, hi.first_concat_of_ne_ok hanswer, fun root answer' h => ?_, ?_, ?_,
    hi.once⟩
  · exact hi.taken root answer' ((hmem root answer').mp h)
  · simp only [hmem, hi.hasBuiltin]
  · simp only [hmem, hi.isPoisoned]

lemma again (hi : Invariant answered s) (hhas : s.hasBuiltin = true) (root : Rootfs) :
    Invariant (answered ++ [(.builtin root, .ok)]) s := by
  obtain ⟨root', hmem'⟩ := hi.hasBuiltin.mp hhas
  have htaken := hi.taken root' .ok hmem'
  refine ⟨hi.named, hi.distinct, fun name => ?_, fun _ _ _ => htaken,
    ⟨fun _ => ⟨root, by simp⟩, fun _ => hhas⟩, hi.isPoisoned_concat_ok, hi.once⟩
  rw [firstSuccess?_concat, ← hi.first]
  by_cases hname : (builtin root).name = name
  · exact (Option.or_of_isSome (hname ▸ htaken)).symm
  · rw [if_neg fun h => hname h.2, Option.or_none]

/-- The name of the built-in plugin is taken when it is asked for. -/
lemma stopped (hi : Invariant answered s) (root : Rootfs) {message : String}
    (hhas : s.hasBuiltin = false) (htaken : (s.registry.get? (builtin root).name).isSome) :
    Invariant (answered ++ [(.builtin root, .stopped message)]) { s with isPoisoned := true } where
  named := hi.named
  distinct := hi.distinct
  first := hi.first_concat_of_ne_ok nofun
  taken _ _ _ := htaken
  hasBuiltin := by simpa using hi.hasBuiltin
  isPoisoned := by
    refine iff_of_true rfl ⟨root, .stopped message, by simp, nofun⟩
  once h := by
    rw [hhas] at h
    cases h

lemma hasBuiltin_eq_false (hi : Invariant answered s) (hpoisoned : s.isPoisoned = true) :
    s.hasBuiltin = false := by
  refine Bool.eq_false_iff.mpr fun hhas => ?_
  rw [hi.once hhas] at hpoisoned
  cases hpoisoned

lemma step (hi : Invariant answered s) (h : Steps c answer s s') :
    Invariant (answered ++ [(c, answer)]) s' := by
  cases h with
  | entered hname hfree hhas hpoisoned => exact hi.entered hname hfree hhas hpoisoned
  | refused hc hanswer => exact hi.refused hc hanswer
  | again hhas => exact hi.again hhas _
  | stopped hhas _ htaken => exact hi.stopped _ hhas htaken
  | @poisoned root _ hpoisoned =>
    obtain ⟨_, _, hmem, -⟩ := hi.isPoisoned.mp hpoisoned
    have htaken := hi.taken _ _ hmem
    have hsame : { s with isPoisoned := true } = s := by rw [← hpoisoned]
    have hnext : Invariant (answered ++ [(.builtin root, .stopped poisonedMessage)]) _ :=
      hi.stopped root (hi.hasBuiltin_eq_false hpoisoned) htaken
    rwa [hsame] at hnext

lemma run (calls : List Call) :
    Invariant (({} : SharedRegistry).run calls).1 (({} : SharedRegistry).run calls).2 := by
  induction calls using List.reverseRecOn with
  | nil => exact start
  | append_singleton calls c ih =>
    rw [run_concat]
    exact ih.step (steps_call _ c)

/-- The built-in plugin is entered, or has been entered, unless another plugin has its name. -/
lemma builtin_eq_ok_iff (hi : Invariant answered s) {root : Rootfs}
    (h : Steps (.builtin root) answer s s') : answer = .ok ↔
      s.registry.get? (builtin root).name = none ∨ ∃ root', (.builtin root', .ok) ∈ answered := by
  rw [← hi.hasBuiltin]
  cases h with
  | entered _ hfree => exact iff_of_true rfl (.inl hfree)
  | refused hc => exact absurd rfl (hc root)
  | again hhas => exact iff_of_true rfl (.inr hhas)
  | stopped hhas _ htaken =>
    refine iff_of_false nofun ?_
    rw [hhas, ← Option.not_isSome_iff_eq_none]
    exact not_or_intro (not_not_intro htaken) Bool.false_ne_true
  | poisoned hpoisoned =>
    obtain ⟨root', _, hmem, -⟩ := hi.isPoisoned.mp hpoisoned
    refine iff_of_false nofun ?_
    rw [hi.hasBuiltin_eq_false hpoisoned, ← Option.not_isSome_iff_eq_none]
    exact not_or_intro (not_not_intro (hi.taken root' _ hmem)) Bool.false_ne_true

/-- Once the built-in plugin has been asked for, whatever the answer, it is not entered again. -/
lemma builtin_later (hi : Invariant answered s) {root root' : Rootfs} {earlier : Answer}
    (hmem : (.builtin root', earlier) ∈ answered) (h : Steps (.builtin root) answer s s') :
    s' = s ∧ (answer ≠ .ok → answer = .stopped poisonedMessage) := by
  have htaken : (s.registry.get? (builtin root).name).isSome := hi.taken root' earlier hmem
  cases h with
  | entered _ hfree =>
    rw [Call.plugin] at hfree
    rw [hfree] at htaken
    cases htaken
  | refused hc => exact absurd rfl (hc root)
  | again => exact ⟨rfl, absurd rfl⟩
  | stopped hhas hpoisoned =>
    by_cases hearlier : earlier = .ok
    · rw [hi.hasBuiltin.mpr ⟨root', hearlier ▸ hmem⟩] at hhas
      cases hhas
    · rw [hi.isPoisoned.mpr ⟨root', earlier, hmem, hearlier⟩] at hpoisoned
      cases hpoisoned
  | poisoned => exact ⟨rfl, fun _ => rfl⟩

/-- At the first call for the built-in plugin its name may be taken. -/
lemma builtin_first (hi : Invariant answered s) {root : Rootfs}
    (hnone : ∀ root' earlier, (.builtin root', earlier) ∉ answered)
    (h : Steps (.builtin root) answer s s') (hanswer : answer ≠ .ok) :
    answer = .stopped (Registry.requiredMessage (.duplicatePlugin (builtin root).name)) := by
  cases h with
  | entered | again => exact absurd rfl hanswer
  | refused hc => exact absurd rfl (hc root)
  | stopped => rfl
  | poisoned hpoisoned =>
    obtain ⟨root', earlier, hmem, -⟩ := hi.isPoisoned.mp hpoisoned
    exact absurd hmem (hnone root' earlier)

end Invariant

lemma map_fst_run (s : SharedRegistry) (calls : List Call) :
    (s.run calls).1.map Prod.fst = calls := by
  induction calls generalizing s with
  | nil => rfl
  | cons c calls ih => rw [run, List.map_cons, ih]

/-- For all calls there may be, in whatever order they take effect, and with the answers they get:

* no plugin has the empty name, and under every other name there is the plugin of the first call that
  succeeded for it;
* a plugin is entered iff its name is not empty and is not taken, and it passes its checks where they
  are made; a plugin that does not pass them is refused for this, taken name or not;
* where the program cannot do without the plugin, it stops with a message that tells the fault;
* a call for the built-in plugin succeeds iff its name is free or an earlier such call succeeded, and
  after an earlier such call it changes nothing, whatever root it gives; if it does not succeed, the
  program stops, the first time because the name is taken, and later because it has stopped before;
* a call that fails changes nothing, but that the first failing call for the built-in plugin is
  remembered as such;
* whatever the order in which the names are gone through, their plugins are those in the registry,
  one for each name, and the monitors and custom resources are those of these plugins, put together. -/
theorem run_keepsFirst (calls : List Call) :
    let answered := (({} : SharedRegistry).run calls).1
    let s := (({} : SharedRegistry).run calls).2
    s.registry.get? "" = none ∧
    (∀ name, s.registry.get? name = firstSuccess? answered name) ∧
    (∀ p, (s.call (.register p)).1 = .ok ↔ p.name ≠ "" ∧ s.registry.get? p.name = none) ∧
    (∀ p, (s.call (.registerChecked p)).1 = .ok ↔
      p.name ≠ "" ∧ s.registry.get? p.name = none ∧ p.check = .ok ()) ∧
    (∀ p fault, p.check = .error fault →
      (s.call (.registerChecked p)).1 = .refused (.validation fault)) ∧
    (∀ p, p.name ≠ "" → (s.registry.get? p.name).isSome →
      (s.call (.register p)).1 = .refused (.duplicatePlugin p.name)) ∧
    (∀ p, (s.call (.require p)).1 = match (s.call (.register p)).1 with
      | .refused fault => .stopped (Registry.requiredMessage fault)
      | answer => answer) ∧
    (∀ root, (s.call (.builtin root)).1 = .ok ↔ s.registry.get? (builtin root).name = none ∨
      ∃ root', (.builtin root', .ok) ∈ answered) ∧
    (∀ root root', .builtin root' ∈ calls → (s.call (.builtin root)).2 = s ∧
      ((s.call (.builtin root)).1 ≠ .ok →
        (s.call (.builtin root)).1 = .stopped "Once instance has previously been poisoned")) ∧
    (∀ root, (∀ root', .builtin root' ∉ calls) → (s.call (.builtin root)).1 ≠ .ok →
      (s.call (.builtin root)).1 =
        .stopped (Registry.requiredMessage (.duplicatePlugin (builtin root).name))) ∧
    (∀ c, (s.call c).1 ≠ .ok → (s.call c).2.registry = s.registry ∧
      (s.call c).2.hasBuiltin = s.hasBuiltin ∧
      ((∀ root, c ≠ .builtin root) → (s.call c).2 = s)) ∧
    ∀ names : List String, names.Nodup → (∀ name, name ∈ names ↔ (s.registry.get? name).isSome) →
      let plugins := names.filterMap s.registry.get?
      plugins.Perm s.registry.plugins ∧ plugins.map Plugin.name = names ∧
      s.registry.size = names.length ∧
      s.registry.monitors.Perm (plugins.flatMap Plugin.monitors) ∧
      s.registry.crds.Perm (plugins.flatMap fun p => p.crds.getD []) := by
  intro answered s
  have hi : Invariant answered s := .run calls
  have hcalls : answered.map Prod.fst = calls := map_fst_run {} calls
  refine ⟨?_, hi.first, fun p => answer_register_eq_ok_iff,
    fun p => answer_registerChecked_eq_ok_iff, ?_, ?_, ?_, fun root => ?_, ?_, ?_,
    fun c => (steps_call s c).of_ne_ok, ?_⟩
  · rw [Registry.get?_eq_none_iff]
    intro hmem
    obtain ⟨p, hp, hname⟩ := List.mem_map.mp hmem
    exact hi.named p hp hname
  · intro p fault hcheck
    rw [call, Registry.registerChecked, hcheck]
    rfl
  · intro p hname htaken
    have hreg : s.registry.register p = .error (.duplicatePlugin p.name) := by
      simp [Registry.register, hname, htaken]
    rw [call, hreg]
    rfl
  · intro p
    rw [call, call]
    rcases s.registry.register p with fault | r <;> rfl
  · exact hi.builtin_eq_ok_iff (steps_call s _)
  · intro root root' hmem
    rw [← hcalls] at hmem
    obtain ⟨⟨c, answer⟩, hmem, rfl⟩ := List.mem_map.mp hmem
    exact hi.builtin_later hmem (steps_call s _)
  · intro root hnone
    refine hi.builtin_first (fun root' answer hmem => hnone root' ?_) (steps_call s _)
    exact hcalls ▸ List.mem_map_of_mem (f := Prod.fst) hmem
  · intro names hnames hall plugins
    have hperm := Registry.filterMap_get?_perm hi.distinct hnames hall
    have hmap := Registry.map_name_filterMap_get? fun name hname => (hall name).mp hname
    refine ⟨hperm, hmap, ?_, (hperm.flatMap_right _).symm, (hperm.flatMap_right _).symm⟩
    rw [Registry.size, ← hperm.length_eq, ← List.length_map Plugin.name, hmap]

end SharedRegistry

end NodeWatch.Plugin
