import NodeWatch.Monitor.Processes
import NodeWatch.Proofs.Procfs

/-!
# Counting zombies

The scan counts the processes whose line gives the state `Z` and notifies the count from the
threshold on (`scanZombies_counts`). A process that is gone or cannot be read is passed over, and so
is one whose command is no text: a zombie of this kind is missed (`not_countsEvery_clipped`).
-/

namespace NodeWatch.Monitor

open Files Text

/-- What is found in the file on a process: nothing to read, as the process is gone or for another
reason, or a line. -/
inductive Found where
  | fault (f : Fault)
  | line (s : Procfs.Stat)

namespace Found

def content (pid : Nat) : Found → Except Fault Bytes
  | fault f => .error f
  | line s => .ok (s.bytes pid)

def isZombie : Found → Bool
  | fault _ => false
  | line s => s.state == 'Z'

/-- Why no state is read. -/
def trouble? : Found → Option Fault
  | fault f => some f
  | line s => if s.isText then none else some .notText

/-- Whether the scan counts the process. -/
def isCounted (p : Found) : Bool :=
  p.isZombie && p.trouble?.isNone

/-- The warning about a process; there is none about one that is gone. -/
def warning? (root : Rootfs) (pid : Nat) (p : Found) : Option LogRecord :=
  (p.trouble?.map (Procfs.Error.read (Procfs.processPath root pid "stat"))).bind fun e =>
    stateLog pid (.error e)

lemma stateOf_content (root : Rootfs) (pid : Nat) (p : Found) :
    Procfs.stateOf root pid (p.content pid) =
      match p with
      | .line s => if s.isText then .ok s.state
        else .error (.read (Procfs.processPath root pid "stat") .notText)
      | .fault f => .error (.read (Procfs.processPath root pid "stat") f) := by
  rcases p with f | s
  · rfl
  · exact Procfs.stateOf_bytes root pid s

lemma stateLog_eq (root : Rootfs) (pid : Nat) (p : Found) :
    stateLog pid (Procfs.stateOf root pid (p.content pid)) = p.warning? root pid := by
  rw [stateOf_content]
  rcases p with f | s
  · rfl
  · rcases hs : s.isText <;> simp [warning?, trouble?, hs, stateLog]

end Found

/-- The scan, given what the reading of each process's file comes to. -/
def scanZombies (sinkOpen : Bool) (root : Rootfs) (pids : List Nat)
    (content : Nat → Except Fault Bytes) : Outcome :=
  checkZombies sinkOpen (pids.map fun pid => (pid, Procfs.stateOf root pid (content pid)))

section

variable {sinkOpen : Bool} {root : Rootfs} {pids : List Nat} {content : Nat → Except Fault Bytes}
  {found : Nat → Found}

lemma watchZombies_eq {files : Tree} (hpids : Procfs.listPids files root = .ok pids)
    (hread : ∀ pid ∈ pids, files.read (Procfs.processPath root pid "stat") = content pid) :
    watchZombies sinkOpen files root = scanZombies sinkOpen root pids content := by
  have hstates : (pids.map fun pid => (pid, Procfs.processState files root pid)) =
      pids.map fun pid => (pid, Procfs.stateOf root pid (content pid)) :=
    List.map_congr_left fun pid hpid => by rw [Procfs.processState_eq, hread pid hpid]
  rw [watchZombies, hpids, Outcome.ofRead, scanZombies, hstates]

lemma scanZombies_congr {content' : Nat → Except Fault Bytes}
    (h : ∀ pid ∈ pids, content pid = content' pid) :
    scanZombies sinkOpen root pids content = scanZombies sinkOpen root pids content' := by
  rw [scanZombies, scanZombies]
  exact congrArg _ (List.map_congr_left fun pid hpid => by rw [h pid hpid])

lemma countZombies_found (root : Rootfs) (pids : List Nat) (found : Nat → Found) :
    countZombies (pids.map fun pid => (pid, Procfs.stateOf root pid ((found pid).content pid))) =
      pids.countP fun pid => (found pid).isCounted := by
  rw [countZombies, List.countP_map]
  refine List.countP_congr fun pid _ => ?_
  rw [Function.comp_apply, Found.stateOf_content]
  rcases found pid with f | s
  · rfl
  · rcases hs : s.isText <;> simp [Found.isCounted, Found.isZombie, Found.trouble?, hs]

lemma zombieCondition_eq (count : Nat) : zombieCondition count = {
    reason := "ExcessiveZombieProcesses"
    message := s!"Detected {count} zombie processes still running"
    severity := .warning
    minOccurrences := 5 } :=
  rfl

/-- What the scan makes of a count: from 20 zombies on, it notifies the count, as a condition that
has to be seen five times. -/
def zombieOutcome (sinkOpen : Bool) (count : Nat) (logs : List LogRecord) : Outcome :=
  { conditions :=
      if 20 ≤ count ∧ sinkOpen then [{
        reason := "ExcessiveZombieProcesses"
        message := s!"Detected {count} zombie processes still running"
        severity := .warning
        minOccurrences := 5 }]
      else []
    logs
    error := if 20 ≤ count ∧ !sinkOpen then some .sinkClosed else none }

lemma scanZombies_found (sinkOpen : Bool) (root : Rootfs) (pids : List Nat) (found : Nat → Found) :
    scanZombies sinkOpen root pids (fun pid => (found pid).content pid) =
      zombieOutcome sinkOpen (pids.countP fun pid => (found pid).isCounted)
        (pids.filterMap fun pid => (found pid).warning? root pid) := by
  have hlogs : (pids.map fun pid =>
      (pid, Procfs.stateOf root pid ((found pid).content pid))).filterMap
        (fun x => stateLog x.1 x.2) = pids.filterMap fun pid => (found pid).warning? root pid := by
    rw [List.filterMap_map]
    exact List.filterMap_congr fun pid _ => (found pid).stateLog_eq root pid
  rw [scanZombies, checkZombies, countZombies_found, hlogs, zombieOutcome, zombieThreshold,
    zombieCondition_eq]
  generalize pids.countP _ = count
  by_cases hcount : count < 20
  · have hnot : ¬ 20 ≤ count := not_le.mpr hcount
    simp [hcount, hnot, Outcome.andThen, Outcome.quiet]
  · have hle : 20 ≤ count := not_lt.mp hcount
    cases sinkOpen <;> simp [hcount, hle, Outcome.andThen, Outcome.notify, Outcome.fail]

/-- A process that is passed over makes no difference to the count of the others. -/
lemma countP_filter_of_trouble {keep : Nat → Bool}
    (h : ∀ pid ∈ pids, keep pid = false → (found pid).trouble? ≠ none) :
    (pids.filter keep).countP (fun pid => (found pid).isCounted) =
      pids.countP fun pid => (found pid).isCounted := by
  rw [List.countP_filter]
  refine List.countP_congr fun pid hpid => ?_
  rcases hkeep : keep pid with _ | _
  · have hpassed : (found pid).trouble?.isNone = false :=
      Option.isNone_eq_false_iff.mpr (Option.isSome_iff_ne_none.mpr (h pid hpid hkeep))
    simp [Found.isCounted, hpassed]
  · simp

lemma countP_isCounted (h : ∀ pid ∈ pids, ∀ s, found pid = .line s → s.isText = true) :
    pids.countP (fun pid => (found pid).isCounted) =
      pids.countP fun pid => (found pid).isZombie := by
  refine List.countP_congr fun pid hpid => ?_
  rcases hfound : found pid with f | s
  · simp [Found.isCounted, Found.isZombie]
  · simp [Found.isCounted, Found.trouble?, h pid hpid s hfound]

end

/-- The scan counts the zombies whose commands are text and notifies the count if there are 20 of
them or more. Whatever it notifies is a warning of excessive zombies with this count, to be seen
five times. It warns of each process that cannot be read, but not of those that are gone, and
neither kind makes a difference to what is notified. If all commands are text, all zombies are
counted. -/
theorem scanZombies_counts {sinkOpen : Bool} {root : Rootfs} {pids : List Nat}
    {content : Nat → Except Fault Bytes} {found : Nat → Found}
    (h : ∀ pid ∈ pids, content pid = (found pid).content pid) :
    scanZombies sinkOpen root pids content =
        zombieOutcome sinkOpen (pids.countP fun pid => (found pid).isCounted)
          (pids.filterMap fun pid => (found pid).warning? root pid) ∧
      (∀ c ∈ (scanZombies sinkOpen root pids content).conditions,
        c.reason = "ExcessiveZombieProcesses" ∧ c.severity = .warning ∧ c.minOccurrences = 5 ∧
          let count := pids.countP fun pid => (found pid).isCounted
          20 ≤ count ∧ c.message = s!"Detected {count} zombie processes still running") ∧
      ((∀ pid ∈ pids, ∀ s, found pid = .line s → ∃ name, s.command = encode name) →
        pids.countP (fun pid => (found pid).isCounted) =
          pids.countP fun pid => (found pid).isZombie) ∧
      (∀ keep : Nat → Bool, (∀ pid ∈ pids, keep pid = false → (found pid).trouble? ≠ none) →
        (scanZombies sinkOpen root (pids.filter keep) content).conditions =
            (scanZombies sinkOpen root pids content).conditions ∧
          (scanZombies sinkOpen root (pids.filter keep) content).error =
            (scanZombies sinkOpen root pids content).error) ∧
      ∀ files, Procfs.listPids files root = .ok pids →
        (∀ pid ∈ pids, files.read (Procfs.processPath root pid "stat") = content pid) →
          watchZombies sinkOpen files root = scanZombies sinkOpen root pids content := by
  have hscan := (scanZombies_congr h).trans (scanZombies_found sinkOpen root pids found)
  refine ⟨hscan, fun c hc => ?_, fun htext => ?_, fun keep hkeep => ?_, fun files hpids hread => ?_⟩
  · simp only [hscan, zombieOutcome, List.mem_ite_nil_right, List.mem_singleton] at hc
    obtain ⟨⟨hcount, -⟩, rfl⟩ := hc
    exact ⟨rfl, rfl, rfl, hcount, rfl⟩
  · exact countP_isCounted fun pid hpid s hs => Procfs.Stat.isText_iff.mpr (htext pid hpid s hs)
  · have hkept : ∀ pid ∈ pids.filter keep, content pid = (found pid).content pid :=
      fun pid hpid => h pid (List.mem_of_mem_filter hpid)
    rw [hscan, scanZombies_congr hkept, scanZombies_found, countP_filter_of_trouble hkeep]
    exact ⟨rfl, rfl⟩
  · exact watchZombies_eq hpids hread

/-- A zombie with this command. -/
def zombie (command : Bytes) : Found :=
  .line
    { command
      state := 'Z'
      numbers := " 1 1 1 0 -1\n".toList
      state_visible := by decide
      state_ne := by decide
      numbers_ok := by decide }

lemma isCounted_zombie (command : Bytes) :
    (zombie command).isCounted = (decode? command).isSome := by
  rcases h : decode? command <;>
    simp [zombie, Found.isCounted, Found.isZombie, Found.trouble?, Procfs.Stat.isText, h]

/-- Zombies with a command that looks like the end of another line, and a process that cannot be
read. -/
def crowd (pid : Nat) : Found :=
  if pid = 20 then .fault .isDirectory else zombie (encode "x) R (\n".toList)

theorem scanZombies_counts_crowd :
    (scanZombies true .host (List.range 21) fun pid => (crowd pid).content pid).conditions = [{
      reason := "ExcessiveZombieProcesses"
      message := "Detected 20 zombie processes still running"
      severity := .warning
      minOccurrences := 5 }] := by
  obtain ⟨hscan, -, hzombies, -⟩ := @scanZombies_counts true .host (List.range 21)
    (fun pid => (crowd pid).content pid) crowd fun _ _ => rfl
  have htext : ∀ pid ∈ List.range 21, ∀ s, crowd pid = .line s →
      ∃ name, s.command = encode name := by
    intro pid _ s hs
    rw [crowd] at hs
    split_ifs at hs
    obtain rfl := Found.line.inj hs
    exact ⟨_, rfl⟩
  have hcount : (List.range 21).countP (fun pid => (crowd pid).isZombie) = 20 := by decide
  rw [hscan, hzombies htext, hcount]
  decide +kernel

/-- Zombies, of which the first one has a command that was cut within a character. -/
def clipped (pid : Nat) : Found :=
  zombie (if pid = 0 then [0xC3] else encode "sh".toList)

/-- Not every zombie is counted. -/
theorem not_countsEvery_clipped :
    ¬ ∀ (pids : List Nat) (found : Nat → Found),
      let count := pids.countP fun pid => (found pid).isZombie
      (scanZombies true .host pids fun pid => (found pid).content pid).conditions =
        if 20 ≤ count then [{
          reason := "ExcessiveZombieProcesses"
          message := s!"Detected {count} zombie processes still running"
          severity := .warning
          minOccurrences := 5 }]
        else [] := by
  intro hall
  have hclipped : decode? [0xC3] = none := by
    rw [decode?, decode, decodeAt]
    rfl
  have hcounted : ∀ pid ∈ List.range 20,
      (clipped pid).isCounted = true ↔ decide (pid ≠ 0) = true := by
    intro pid _
    rw [clipped, isCounted_zombie]
    split_ifs with h
    · simp [h, hclipped]
    · rw [decode?_encode]
      simp [h]
  have hzombies : (List.range 20).countP (fun pid => (clipped pid).isZombie) = 20 := by decide
  have h := hall (List.range 20) clipped
  simp only [scanZombies_found, List.countP_congr hcounted, hzombies] at h
  exact absurd h (by decide)

end NodeWatch.Monitor
