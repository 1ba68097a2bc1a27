import Mathlib.Data.List.Basic
import Mathlib.Data.Nat.Find
import Mathlib.Order.Bounds.Basic
import Mathlib.Tactic.Common
import NodeWatch.Plugin.Validate

/-!
# The first fault of a plugin

What the checks ask of a plugin, and what they report of one that does not pass. The report is the
first fault, found by the least index of a faulty monitor and the least index of a faulty condition
in it, so what comes after it makes no difference. The main statement is `check_findsFirstFault`.
-/

namespace NodeWatch

def Condition.IsValid (c : Condition) : Prop :=
  c.reason ≠ "" ∧ 0 ≤ c.minOccurrences

namespace Plugin

def Monitor.IsValid (m : Monitor) : Prop :=
  m.name ≠ "" ∧ ∀ c ∈ m.conditions, c.IsValid

def IsValid (p : Plugin) : Prop :=
  p.name ≠ "" ∧ p.monitors ≠ [] ∧ ∀ m ∈ p.monitors, m.IsValid

section

variable {α : Type} {valid : α → Prop} {items : List α} {a : α} {i : Nat}

/-- Whether `a` stands at `i`, which is the least index of an item that is not valid. -/
def IsFirst (valid : α → Prop) (items : List α) (i : Nat) (a : α) : Prop :=
  items[i]? = some a ∧ IsLeast {j | ∃ b, items[j]? = some b ∧ ¬ valid b} i

lemma isFirst_iff_take :
    IsFirst valid items i a ↔ items[i]? = some a ∧ ¬ valid a ∧ ∀ b ∈ items.take i, valid b := by
  refine and_congr_right fun hitem => ?_
  constructor
  · rintro ⟨⟨b, hb, hfaulty⟩, hleast⟩
    obtain rfl : a = b := Option.some.inj (hitem.symm.trans hb)
    refine ⟨hfaulty, fun b hb => ?_⟩
    by_contra hbefore
    obtain ⟨j, hj⟩ := List.mem_iff_getElem?.mp hb
    have hlt : j < i := by
      by_contra hle
      rw [List.getElem?_take_eq_none (Nat.not_lt.mp hle)] at hj
      cases hj
    rw [List.getElem?_take_of_lt hlt] at hj
    exact Nat.not_le_of_lt hlt (hleast ⟨b, hj, hbefore⟩)
  · rintro ⟨hfaulty, hbefore⟩
    refine ⟨⟨a, hitem, hfaulty⟩, ?_⟩
    rintro j ⟨b, hb, hfaulty'⟩
    by_contra hlt
    refine hfaulty' (hbefore b (List.mem_iff_getElem?.mpr ⟨j, ?_⟩))
    rw [List.getElem?_take_of_lt (Nat.not_le.mp hlt), hb]

lemma exists_isFirst (h : ¬ ∀ a ∈ items, valid a) : ∃ i a, IsFirst valid items i a := by
  classical
  push Not at h
  obtain ⟨b, hb, hfaulty⟩ := h
  have hsome : ∃ j : Nat, ∃ b : α, items[j]? = some b ∧ ¬ valid b := by
    obtain ⟨j, hj⟩ := List.mem_iff_getElem?.mp hb
    exact ⟨j, b, hj, hfaulty⟩
  obtain ⟨a, ha, hfault⟩ := Nat.find_spec hsome
  exact ⟨Nat.find hsome, a, ha, ⟨a, ha, hfault⟩, fun j hj => Nat.find_min' hsome hj⟩

variable {check : α → Except Error Unit} {e : Error}

lemma firstFault?_eq_none_iff :
    firstFault? check items = none ↔ ∀ a ∈ items, check a = .ok () := by
  rw [firstFault?, List.findSome?_eq_none_iff]
  constructor
  · intro hnone a ha
    obtain ⟨j, hj⟩ := List.mem_iff_getElem?.mp ha
    have hitem := hnone (a, j) (List.mem_zipIdx_iff_getElem?.mpr hj)
    rcases hcheck : check a with fault | ⟨⟩
    · simp [hcheck] at hitem
    · rfl
  · rintro hall ⟨a, j⟩ hmem
    have ha : a ∈ items := List.mem_iff_getElem?.mpr ⟨j, List.mem_zipIdx_iff_getElem?.mp hmem⟩
    simp [hall a ha]

/-- The search stops at the first item that does not pass. -/
lemma firstFault?_append_cons {before : List α} (hbefore : ∀ b ∈ before, check b = .ok ())
    (ha : check a = .error e) (after : List α) :
    firstFault? check (before ++ a :: after) = some (before.length, e) := by
  have hnone := firstFault?_eq_none_iff.mpr hbefore
  rw [firstFault?] at hnone
  rw [firstFault?, List.zipIdx_append, List.findSome?_append, hnone, List.zipIdx_cons,
    List.findSome?_cons]
  simp [ha]

lemma firstFault?_eq_some_iff (hvalid : ∀ a, check a = .ok () ↔ valid a) :
    firstFault? check items = some (i, e) ↔ ∃ a, IsFirst valid items i a ∧ check a = .error e := by
  have hfound {j : Nat} {b : α} {fault : Error} (hb : IsFirst valid items j b)
      (hfault : check b = .error fault) : firstFault? check items = some (j, fault) := by
    obtain ⟨hitem, -, hbefore⟩ := isFirst_iff_take.mp hb
    obtain ⟨hlt, rfl⟩ := List.getElem?_eq_some_iff.mp hitem
    have hsearch := firstFault?_append_cons (fun b hb => (hvalid b).mpr (hbefore b hb)) hfault
      (items.drop (j + 1))
    rwa [List.getElem_cons_drop, List.take_append_drop, List.length_take_of_le hlt.le] at hsearch
  constructor
  · intro h
    have hsome : ¬ ∀ a ∈ items, valid a := by
      intro hall
      rw [firstFault?_eq_none_iff.mpr fun a ha => (hvalid a).mpr (hall a ha)] at h
      cases h
    obtain ⟨j, a, hfirst⟩ := exists_isFirst hsome
    rcases ha : check a with fault | ⟨⟩
    · rw [hfound hfirst ha] at h
      cases h
      exact ⟨a, hfirst, ha⟩
    · exact absurd ((hvalid a).mp ha) (isFirst_iff_take.mp hfirst).2.1
  · rintro ⟨a, hfirst, ha⟩
    exact hfound hfirst ha

/-- A report on the items of a list, with the index and the fault of the first faulty one. -/
def report (wrap : Nat → Error → Error) (check : α → Except Error Unit) (items : List α) :
    Except Error Unit :=
  match firstFault? check items with
  | some (i, fault) => .error (wrap i fault)
  | none => .ok ()

variable {wrap : Nat → Error → Error}

lemma report_eq_ok_iff (hvalid : ∀ a, check a = .ok () ↔ valid a) :
    report wrap check items = .ok () ↔ ∀ a ∈ items, valid a := by
  simp only [← hvalid, ← firstFault?_eq_none_iff]
  rw [report]
  rcases firstFault? check items with _ | ⟨i, fault⟩ <;> simp

lemma report_eq_error_iff (hvalid : ∀ a, check a = .ok () ↔ valid a) :
    report wrap check items = .error e ↔
      ∃ i a fault, IsFirst valid items i a ∧ check a = .error fault ∧ wrap i fault = e := by
  constructor
  · intro h
    rcases hfirst : firstFault? check items with _ | ⟨i, fault⟩
    · simp [report, hfirst] at h
    · obtain ⟨a, ha, hfault⟩ := (firstFault?_eq_some_iff hvalid).mp hfirst
      exact ⟨i, a, fault, ha, hfault, by simpa [report, hfirst] using h⟩
  · rintro ⟨i, a, fault, ha, hfault, rfl⟩
    rw [report, (firstFault?_eq_some_iff hvalid).mpr ⟨a, ha, hfault⟩]

end

/-- The fault of a condition; that it has no reason is found first. -/
inductive ConditionFault (c : Condition) : Error → Prop
  | reason : c.reason = "" → ConditionFault c .emptyReason
  | sightings : c.reason ≠ "" → c.minOccurrences < 0 →
      ConditionFault c (.negativeMinOccurrences c.minOccurrences.toInt)

inductive MonitorFault (m : Monitor) : Error → Prop
  | name : m.name = "" → MonitorFault m .emptyMonitorName
  | condition {i : Nat} {c : Condition} {e : Error} : m.name ≠ "" →
      IsFirst Condition.IsValid m.conditions i c → ConditionFault c e →
        MonitorFault m (.condition i e)

inductive FirstFault (p : Plugin) : Error → Prop
  | name : p.name = "" → FirstFault p .emptyPluginName
  | noMonitors : p.name ≠ "" → p.monitors = [] → FirstFault p (.noMonitors p.name)
  | monitor {i : Nat} {m : Monitor} {e : Error} : p.name ≠ "" →
      IsFirst Monitor.IsValid p.monitors i m → MonitorFault m e → FirstFault p (.monitor i e)

/-! ### Conditions, monitors and plugins -/

lemma checkCondition_eq (c : Condition) : checkCondition c =
    if c.reason = "" then .error .emptyReason
    else if c.minOccurrences < 0 then .error (.negativeMinOccurrences c.minOccurrences.toInt)
    else .ok () := by
  simp only [checkCondition, String.isEmpty_iff]
  split_ifs <;> rfl

lemma checkCondition_eq_ok_iff (c : Condition) : checkCondition c = .ok () ↔ c.IsValid := by
  rw [checkCondition_eq, Condition.IsValid]
  split_ifs with hreason hleast
  · simp [hreason]
  · simp [Int64.not_le.mpr hleast]
  · simp [hreason, Int64.not_lt.mp hleast]

lemma checkCondition_eq_error_iff {c : Condition} {e : Error} :
    checkCondition c = .error e ↔ ConditionFault c e := by
  rw [checkCondition_eq]
  constructor
  · intro h
    split_ifs at h with hreason hleast
    · cases h
      exact .reason hreason
    · cases h
      exact .sightings hreason hleast
  · rintro (hreason | ⟨hreason, hleast⟩)
    · rw [if_pos hreason]
    · rw [if_neg hreason, if_pos hleast]

namespace Monitor

lemma check_eq (m : Monitor) : m.check =
    if m.name = "" then .error .emptyMonitorName
    else report .condition checkCondition m.conditions := by
  simp only [check, String.isEmpty_iff]
  split_ifs
  · rfl
  · rw [report]
    rcases firstFault? checkCondition m.conditions with _ | ⟨i, e⟩ <;> rfl

lemma check_eq_ok_iff (m : Monitor) : m.check = .ok () ↔ m.IsValid := by
  rw [check_eq, IsValid]
  split_ifs with hname
  · simp [hname]
  · rw [report_eq_ok_iff checkCondition_eq_ok_iff, and_iff_right hname]

lemma check_eq_error_iff {m : Monitor} {e : Error} : m.check = .error e ↔ MonitorFault m e := by
  rw [check_eq]
  constructor
  · intro h
    split_ifs at h with hname
    · cases h
      exact .name hname
    · obtain ⟨i, c, fault, hc, hfault, rfl⟩ := (report_eq_error_iff checkCondition_eq_ok_iff).mp h
      exact .condition hname hc (checkCondition_eq_error_iff.mp hfault)
  · rintro (hname | ⟨hname, hc, hfault⟩)
    · rw [if_pos hname]
    · rw [if_neg hname, report_eq_error_iff checkCondition_eq_ok_iff]
      exact ⟨_, _, _, hc, checkCondition_eq_error_iff.mpr hfault, rfl⟩

end Monitor

lemma check_eq (p : Plugin) : p.check =
    if p.name = "" then .error .emptyPluginName
    else if p.monitors = [] then .error (.noMonitors p.name)
    else report .monitor Monitor.check p.monitors := by
  simp only [check, String.isEmpty_iff, List.isEmpty_iff]
  by_cases hname : p.name = ""
  · simp only [hname, if_true]
    rfl
  by_cases hmonitors : p.monitors = []
  · simp only [hname, hmonitors, if_false, if_true]
    rfl
  · simp only [hname, hmonitors, if_false, report]
    rcases firstFault? Monitor.check p.monitors with _ | ⟨i, e⟩ <;> rfl

lemma check_eq_ok_iff (p : Plugin) : p.check = .ok () ↔ p.IsValid := by
  rw [check_eq, IsValid]
  split_ifs with hname hmonitors
  · simp [hname]
  · simp [hmonitors]
  · rw [report_eq_ok_iff Monitor.check_eq_ok_iff, and_iff_right hname, and_iff_right hmonitors]

lemma check_eq_error_iff {p : Plugin} {e : Error} : p.check = .error e ↔ FirstFault p e := by
  rw [check_eq]
  constructor
  · intro h
    split_ifs at h with hname hmonitors
    · cases h
      exact .name hname
    · cases h
      exact .noMonitors hname hmonitors
    · obtain ⟨i, m, fault, hm, hfault, rfl⟩ := (report_eq_error_iff Monitor.check_eq_ok_iff).mp h
      exact .monitor hname hm (Monitor.check_eq_error_iff.mp hfault)
  · rintro (hname | ⟨hname, hmonitors⟩ | ⟨hname, hm, hfault⟩)
    · rw [if_pos hname]
    · rw [if_neg hname, if_pos hmonitors]
    · have hmonitors : p.monitors ≠ [] := List.ne_nil_of_mem (List.mem_of_getElem? hm.1)
      rw [if_neg hname, if_neg hmonitors, report_eq_error_iff Monitor.check_eq_ok_iff]
      exact ⟨_, _, _, hm, Monitor.check_eq_error_iff.mpr hfault, rfl⟩

/-- What the checks see of a monitor up to a fault in it. -/
def Monitor.upTo (m : Monitor) : Error → String × List Condition
  | .condition i _ => (m.name, m.conditions.take (i + 1))
  | _ => (m.name, [])

/-- What the checks see of a plugin up to a fault: its name, the monitors before the faulty one, and
that one as far as the fault. -/
def upTo (p : Plugin) : Error → String × List Monitor × Option (String × List Condition)
  | .monitor i cause => (p.name, p.monitors.take i, p.monitors[i]?.map (Monitor.upTo · cause))
  | .emptyPluginName => (p.name, [], none)
  | _ => (p.name, p.monitors, none)

lemma MonitorFault.not_isValid {m : Monitor} {e : Error} (h : MonitorFault m e) : ¬ m.IsValid := by
  rw [← Monitor.check_eq_ok_iff, Monitor.check_eq_error_iff.mpr h]
  nofun

lemma MonitorFault.of_upTo {m m' : Monitor} {e : Error} (h : MonitorFault m e)
    (hsame : m'.upTo e = m.upTo e) : MonitorFault m' e := by
  cases h with
  | name hname => exact .name ((Prod.mk.inj hsame).1.trans hname)
  | @condition i c fault hname hc hfault =>
    obtain ⟨hsameName, hsameConditions⟩ := Prod.mk.inj hsame
    have hitem : m'.conditions[i]? = some c := by
      have hi := congrArg (·[i]?) hsameConditions
      simpa [hc.1] using hi
    have hbefore : m'.conditions.take i = m.conditions.take i := by
      have htake := congrArg (List.take i) hsameConditions
      simpa [List.take_take] using htake
    refine .condition (hsameName.trans_ne hname) (isFirst_iff_take.mpr ?_) hfault
    rw [hbefore]
    exact ⟨hitem, (isFirst_iff_take.mp hc).2⟩

lemma FirstFault.of_upTo {p q : Plugin} {e : Error} (h : FirstFault p e)
    (hsame : q.upTo e = p.upTo e) : FirstFault q e := by
  cases h with
  | name hname => exact .name ((Prod.mk.inj hsame).1.trans hname)
  | noMonitors hname hmonitors =>
    obtain ⟨hsameName, hsameMonitors⟩ := Prod.mk.inj hsame
    rw [← hsameName]
    exact .noMonitors (hsameName.trans_ne hname) ((Prod.mk.inj hsameMonitors).1.trans hmonitors)
  | @monitor i m fault hname hm hfault =>
    obtain ⟨hsameName, hrest⟩ := Prod.mk.inj hsame
    obtain ⟨hbefore, hsameMonitor⟩ := Prod.mk.inj hrest
    rw [hm.1, Option.map_some] at hsameMonitor
    obtain ⟨m', hitem, hsameMonitor⟩ := Option.map_eq_some_iff.mp hsameMonitor
    have hfault' := hfault.of_upTo hsameMonitor
    refine .monitor (hsameName.trans_ne hname) (isFirst_iff_take.mpr ?_) hfault'
    rw [hbefore]
    exact ⟨hitem, hfault'.not_isValid, (isFirst_iff_take.mp hm).2.2⟩

/-! ### The checks as a whole -/

/-- A plugin passes if and only if it has a name and a monitor, every monitor has a name, and every
declared condition has a reason and no negative number of sightings. Otherwise the report is its
first fault. The causes of a report on a monitor are that the monitor has no name, or a report on a
condition and the fault of that condition. A plugin that is the same up to the first fault of
another one is reported with that fault, whatever comes after it. -/
theorem check_findsFirstFault (p : Plugin) :
    (p.check = .ok () ↔ p.name ≠ "" ∧ p.monitors ≠ [] ∧ ∀ m ∈ p.monitors,
      m.name ≠ "" ∧ ∀ c ∈ m.conditions, c.reason ≠ "" ∧ 0 ≤ c.minOccurrences) ∧
    (∀ e, p.check = .error e ↔ FirstFault p e) ∧
    (∀ i cause, p.check = .error (.monitor i cause) →
      (Error.monitor i cause).causes = [.emptyMonitorName] ∨
        ∃ j fault, (Error.monitor i cause).causes = [.condition j fault, fault] ∧
          (fault = .emptyReason ∨ ∃ n < 0, fault = .negativeMinOccurrences n)) ∧
    ∀ (e : Error) (q : Plugin), p.check = .error e → q.upTo e = p.upTo e → q.check = .error e := by
  refine ⟨p.check_eq_ok_iff, fun e => check_eq_error_iff, fun i cause h => ?_,
    fun e q h hsame => ?_⟩
  · obtain ⟨⟩ | ⟨⟩ | ⟨-, -, hfault⟩ := check_eq_error_iff.mp h
    rcases hfault with - | ⟨-, -, hfault⟩
    · exact .inl rfl
    · rcases hfault with - | ⟨-, hleast⟩
      · exact .inr ⟨_, _, rfl, .inl rfl⟩
      · exact .inr ⟨_, _, rfl, .inr ⟨_, Int64.lt_iff_toInt_lt.mp hleast, rfl⟩⟩
  · exact check_eq_error_iff.mpr ((check_eq_error_iff.mp h).of_upTo hsame)

/-- A plugin with faults in two conditions and in the name of a monitor. -/
def crowdedPlugin : Plugin where
  name := "p"
  monitors := [⟨"a", [{ reason := "Ok", severity := .info }]⟩,
    ⟨"b", [{ reason := "Ok", severity := .info, minOccurrences := 0 },
      { reason := "", severity := .info, minOccurrences := -1 },
      { reason := "Late", severity := .info, minOccurrences := -9223372036854775808 }]⟩,
    ⟨"", []⟩]

/-- The same plugin with its later faults mended. -/
def mendedPlugin : Plugin where
  name := "p"
  monitors := [⟨"a", [{ reason := "Ok", severity := .info }]⟩,
    ⟨"b", [{ reason := "Ok", severity := .info, minOccurrences := 0 },
      { reason := "", severity := .info, minOccurrences := -1 }]⟩]

theorem check_findsFirstFault_crowded :
    FirstFault crowdedPlugin (.monitor 1 (.condition 1 .emptyReason)) ∧
      mendedPlugin.check = .error (.monitor 1 (.condition 1 .emptyReason)) := by
  obtain ⟨-, hfirst, -, hsame⟩ := check_findsFirstFault crowdedPlugin
  have hcheck : crowdedPlugin.check = .error (.monitor 1 (.condition 1 .emptyReason)) := rfl
  exact ⟨(hfirst _).mp hcheck, hsame _ mendedPlugin hcheck rfl⟩

end Plugin

end NodeWatch
