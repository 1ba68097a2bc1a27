import Mathlib.Tactic.NormNum
import NodeWatch.Monitor.Usage
import NodeWatch.Proofs.Files.Descent
import NodeWatch.Proofs.Number.Double
import NodeWatch.Proofs.Procfs

/-!
# Thresholds of use

The share of a limit in use is a quotient of doubles, so it is the doubles nearest to both counts
that are compared (`Reaches`). For limits up to a quadrillion, this compares the counts themselves
with seven tenths (`reaches_iff_of_le`). For larger limits, rounding decides where the share lies
within a few parts in `2 ^ 53` of seven tenths (`not_exact_large`).
-/

namespace NodeWatch.Monitor

open Files Text

/-- The comparison that the check comes to. A quotient is rounded to the double for seven tenths or
more from the middle between this double and the one below it, which is
`12610078956637387 / 2 ^ 54`. -/
def Reaches (used limit : ℕ) : Prop :=
  12610078956637387 * Double.nearest limit ≤ 2 ^ 54 * Double.nearest used

instance (used limit : ℕ) : Decidable (Reaches used limit) :=
  inferInstanceAs (Decidable (_ ≤ _))

lemma threshold_eq : threshold = (6305039478318694 : ℤ) * (2 : ℚ) ^ (-53 : ℤ) := by
  decide +kernel

section

variable {used limit : ℕ}

lemma threshold_le_share_iff (hlimit : 0 < limit) :
    threshold ≤ share used limit ↔ Reaches used limit := by
  have hlimit' := Double.nearest_pos hlimit
  rw [share, Double.div, threshold_eq, Reaches]
  rcases used.eq_zero_or_pos with rfl | hused
  · have hzero : Double.nearest (Double.nearest (0 : ℕ) / Double.nearest limit) = 0 := by
      rw [Nat.cast_zero, Double.nearest_zero, zero_div, Double.nearest_zero]
    rw [hzero, Nat.cast_zero, Double.nearest_zero]
    refine iff_of_false (not_le.mpr (by positivity)) (not_le.mpr ?_)
    linarith
  · rw [Double.le_nearest_iff (div_pos (Double.nearest_pos hused) hlimit') (by norm_num)
      (by norm_num) (by norm_num), le_div_iff₀ hlimit']
    norm_num
    constructor <;> intro h <;> linarith

/-- Below `2 ^ 53` the counts are doubles, and only the quotient is rounded. -/
lemma reaches_iff_of_lt (h : limit < 2 ^ 53) :
    Reaches used limit ↔ 2 ^ 53 * (7 * limit) ≤ 2 ^ 53 * (10 * used) + 9 * limit := by
  rw [Reaches, Double.nearest_natCast h]
  rcases lt_or_ge used (2 ^ 53) with hused | hused
  · rw [Double.nearest_natCast hused]
    have hcast : (12610078956637387 * (limit : ℚ) ≤ 2 ^ 54 * used) ↔
        12610078956637387 * limit ≤ 2 ^ 54 * used := by exact_mod_cast Iff.rfl
    rw [hcast]
    omega
  · have hnearest : (2 : ℚ) ^ 53 ≤ Double.nearest used := Double.two_pow_le_nearest hused
    have hlimit : (limit : ℚ) ≤ 2 ^ 53 := by exact_mod_cast h.le
    exact iff_of_true (by linarith) (by omega)

/-- For limits up to a quadrillion, the comparison is that of the counts. -/
lemma reaches_iff_of_le (h : limit ≤ 1000799917193443) :
    Reaches used limit ↔ 7 * limit ≤ 10 * used := by
  rw [reaches_iff_of_lt (by omega)]
  omega

/-- From one part in `2 ^ 53` above the threshold on, rounding makes no difference. -/
lemma reaches_of_le (h : (2 ^ 53 + 1) * (7 * limit) ≤ 2 ^ 53 * (10 * used)) :
    Reaches used limit := by
  have hlimit := (abs_le.mp (Double.abs_nearest_sub_le (Nat.cast_nonneg limit))).2
  have hused := (abs_le.mp (Double.abs_nearest_sub_le (Nat.cast_nonneg used))).1
  have hcast : (2 ^ 53 + 1) * (7 * (limit : ℚ)) ≤ 2 ^ 53 * (10 * used) := by exact_mod_cast h
  have hpos : (0 : ℚ) ≤ limit := Nat.cast_nonneg limit
  rw [Reaches]
  linarith

/-- From one part in `2 ^ 51` below the threshold on, rounding makes no difference. -/
lemma le_of_reaches (h : Reaches used limit) :
    (2 ^ 51 - 1) * (7 * limit) ≤ 2 ^ 51 * (10 * used) := by
  have hlimit := (abs_le.mp (Double.abs_nearest_sub_le (Nat.cast_nonneg limit))).1
  have hused := (abs_le.mp (Double.abs_nearest_sub_le (Nat.cast_nonneg used))).2
  have hpos : (0 : ℚ) ≤ limit := Nat.cast_nonneg limit
  rw [Reaches] at h
  have hcast : (2251799813685247 : ℚ) * (7 * limit) ≤ 2251799813685248 * (10 * used) := by
    linarith
  exact_mod_cast hcast

end

lemma openFilesCondition_eq (allocated total : ℕ) : openFilesCondition allocated total =
    let use := s!"{allocated} of {total} total, {percent allocated total}%"
    { reason := "ApproachingMaxOpenFiles"
      message := s!"Approaching Exhaustion of max open file descriptors. {use}"
      severity := .warning
      minOccurrences := 1 } :=
  rfl

lemma pidsCondition_eq (current limit : ℕ) : pidsCondition current limit =
    let use := s!"{current} of {limit} total, {percent current limit}%"
    { reason := "ApproachingKernelPidMax"
      message := s!"Approaching max number of PIDs. {use}"
      severity := .warning
      minOccurrences := 1 } :=
  rfl

section

variable {sinkOpen : Bool} {setting : String} {c : Condition} {used limit : ℕ}

lemma checkShare_zero : checkShare sinkOpen setting c used 0 = .fail (.zeroLimit setting) :=
  rfl

lemma checkShare_of_pos (hlimit : 0 < limit) :
    checkShare sinkOpen setting c used limit =
      if Reaches used limit then .notify sinkOpen c else .quiet := by
  rw [checkShare, if_neg hlimit.ne']
  by_cases h : Reaches used limit
  · rw [if_pos h, if_neg (not_lt.mpr ((threshold_le_share_iff hlimit).mpr h))]
  · rw [if_neg h, if_pos (not_le.mp (mt (threshold_le_share_iff hlimit).mp h))]

end

section

variable {sinkOpen : Bool} {files : Tree} {root : Rootfs}

lemma watchOpenFiles_of_readText {text allocated other total : List Char} {a t : ℕ}
    (h : files.readText (Procfs.settingPath root Procfs.fileHandlesName) = .ok text)
    (hfields : fields text = [allocated, other, total]) (ha : count? allocated = some a)
    (ht : count? total = some t) :
    watchOpenFiles sinkOpen files root = checkOpenFiles sinkOpen a t := by
  rw [watchOpenFiles, Procfs.fileHandles_of_readText h hfields ha ht]
  rfl

lemma watchPids_of_readText {pidText threadText : List Char} {pidMax threadsMax : ℕ}
    {names : List Bytes} (hpid : files.readText (Procfs.settingPath root pidMaxName) = .ok pidText)
    (hpidMax : count? (trim pidText) = some pidMax)
    (hthread : files.readText (Procfs.settingPath root threadsMaxName) = .ok threadText)
    (hthreadsMax : count? (trim threadText) = some threadsMax)
    (hnames : files.list (root.join (.ofText "/proc")) = .ok names) :
    watchPids sinkOpen files root =
      checkPids sinkOpen (names.countP fun name => (Procfs.pid? name).isSome)
        (max pidMax threadsMax) := by
  rw [watchPids, pidUsage, Procfs.parseSetting_of_readText hpid hpidMax,
    Procfs.parseSetting_of_readText hthread hthreadsMax, Procfs.listPids_of_list hnames,
    ← List.length_filterMap_eq_countP]
  rfl

end

/-- The checks notify where the counts, as doubles, reach the threshold. For limits up to a
quadrillion, this is where seven tenths are in use. For limits below `2 ^ 53`, it is where `2 ^ 53`
times the missing tenths are at most nine limits, so no share of seven tenths is missed. For any
limit, it differs from seven tenths by a few parts in `2 ^ 53` at most. The counts are those that
the files give, and a limit of zero is an error. -/
theorem usage_reported (sinkOpen : Bool) :
    (∀ allocated total, 0 < total →
      checkOpenFiles sinkOpen allocated total =
        if Reaches allocated total then .notify sinkOpen (openFilesCondition allocated total)
        else .quiet) ∧
      (∀ current limit, 0 < limit →
        checkPids sinkOpen current limit =
          if Reaches current limit then .notify sinkOpen (pidsCondition current limit)
          else .quiet) ∧
      (∀ used limit,
        (limit ≤ 1000799917193443 → (Reaches used limit ↔ 7 * limit ≤ 10 * used)) ∧
          (limit < 2 ^ 53 →
            (Reaches used limit ↔ 2 ^ 53 * (7 * limit) ≤ 2 ^ 53 * (10 * used) + 9 * limit)) ∧
          ((2 ^ 53 + 1) * (7 * limit) ≤ 2 ^ 53 * (10 * used) → Reaches used limit) ∧
          (Reaches used limit → (2 ^ 51 - 1) * (7 * limit) ≤ 2 ^ 51 * (10 * used))) ∧
      (∀ files root text allocated other total a t,
        files.readText (Procfs.settingPath root Procfs.fileHandlesName) = .ok text →
          fields text = [allocated, other, total] → count? allocated = some a →
            count? total = some t →
              watchOpenFiles sinkOpen files root = checkOpenFiles sinkOpen a t) ∧
      (∀ files root pidText threadText pidMax threadsMax names,
        files.readText (Procfs.settingPath root pidMaxName) = .ok pidText →
          count? (trim pidText) = some pidMax →
            files.readText (Procfs.settingPath root threadsMaxName) = .ok threadText →
              count? (trim threadText) = some threadsMax →
                files.list (root.join (.ofText "/proc")) = .ok names →
                  watchPids sinkOpen files root =
                    checkPids sinkOpen (names.countP fun name => (Procfs.pid? name).isSome)
                      (max pidMax threadsMax)) ∧
      (∀ allocated, checkOpenFiles sinkOpen allocated 0 =
        .fail (.zeroLimit Procfs.fileHandlesName)) ∧
      (∀ current, checkPids sinkOpen current 0 = .fail (.zeroLimit pidMaxName)) ∧
      (∀ allocated total, openFilesCondition allocated total =
        let use := s!"{allocated} of {total} total, {percent allocated total}%"
        { reason := "ApproachingMaxOpenFiles"
          message := s!"Approaching Exhaustion of max open file descriptors. {use}"
          severity := .warning
          minOccurrences := 1 }) ∧
      ∀ current limit, pidsCondition current limit =
        let use := s!"{current} of {limit} total, {percent current limit}%"
        { reason := "ApproachingKernelPidMax"
          message := s!"Approaching max number of PIDs. {use}"
          severity := .warning
          minOccurrences := 1 } := by
  refine ⟨fun _ _ h => checkShare_of_pos h, fun _ _ h => checkShare_of_pos h,
    fun used limit => ⟨reaches_iff_of_le, reaches_iff_of_lt, reaches_of_le, le_of_reaches⟩,
    fun _ _ _ _ _ _ _ _ h hfields ha ht => watchOpenFiles_of_readText h hfields ha ht,
    fun _ _ _ _ _ _ _ hpid hpidMax hthread hthreadsMax hnames =>
      watchPids_of_readText hpid hpidMax hthread hthreadsMax hnames,
    fun _ => checkShare_zero, fun _ => checkShare_zero, openFilesCondition_eq, pidsCondition_eq⟩

/-- Near the ends of 64 bits, rounding may go either way: the first limit is reported although less
than seven tenths of it are in use, and the second one is not reported although seven tenths are. -/
theorem not_exact_large :
    (¬ 7 * 9223372036854775807 ≤ 10 * 6456360425798343064 ∧
        (checkOpenFiles true 6456360425798343064 9223372036854775807).conditions ≠ []) ∧
      7 * 18014398509482230 ≤ 10 * 12610078956637561 ∧
        (checkOpenFiles true 12610078956637561 18014398509482230).conditions = [] := by
  have hearly : Reaches 6456360425798343064 9223372036854775807 := by decide +kernel
  have hmissed : ¬ Reaches 12610078956637561 18014398509482230 := by decide +kernel
  refine ⟨⟨by decide, ?_⟩, by decide, ?_⟩
  · rw [checkOpenFiles, checkShare_of_pos (by decide), if_pos hearly]
    exact List.cons_ne_nil _ _
  · rw [checkOpenFiles, checkShare_of_pos (by decide), if_neg hmissed]
    rfl

/-- Files of a host with two processes and seven of ten open files. -/
def sampleTree : Tree :=
  ⟨#[.directory [(encode "proc".toList, 1)],
    .directory [(encode "sys".toList, 2), (encode "1".toList, 3), (encode "27".toList, 4),
      (encode "uptime".toList, 5)],
    .directory [(encode "fs".toList, 6), (encode "kernel".toList, 7)],
    .directory [],
    .directory [],
    .file [],
    .directory [(encode "file-nr".toList, 8)],
    .directory [(encode "pid_max".toList, 9), (encode "threads-max".toList, 10)],
    .file (encode "7\t0\t10\n".toList),
    .file (encode "2\n".toList),
    .file (encode "3\n".toList)]⟩

/-- Seven of ten files are reported, and two of three processes are not. -/
theorem usage_reported_sample :
    watchOpenFiles true sampleTree .host = .notify true (openFilesCondition 7 10) ∧
      watchPids true sampleTree .host = .quiet := by
  obtain ⟨hfiles, hpids, hexact, hopen, hwatch, -⟩ := usage_reported true
  have hread {name : String} {s : List Char}
      (hplain : Tree.IsPlain (Procfs.settingPath .host name))
      (h : (sampleTree.descend? 0 (Tree.steps (Procfs.settingPath .host name))).bind
        sampleTree.data? = some (encode s)) :
      sampleTree.readText (Procfs.settingPath .host name) = .ok s :=
    Tree.readText_of_read (Tree.read_of_descend? hplain h)
  constructor
  · have hseven : Reaches 7 10 := ((hexact 7 10).1 (by decide)).mpr (by decide)
    rw [hopen sampleTree .host "7\t0\t10\n".toList "7".toList "0".toList "10".toList 7 10
      (hread (by decide +kernel) (by decide +kernel)) (by decide +kernel) (by decide +kernel)
      (by decide +kernel), hfiles 7 10 (by decide), if_pos hseven]
  · have htwo : ¬ Reaches 2 3 := fun h => absurd (((hexact 2 3).1 (by decide)).mp h) (by decide)
    rw [hwatch sampleTree .host "2\n".toList "3\n".toList 2 3 _
      (hread (by decide +kernel) (by decide +kernel)) (by decide +kernel)
      (hread (by decide +kernel) (by decide +kernel)) (by decide +kernel)
      (Tree.list_of_descend? (by decide +kernel) rfl)]
    simp only [List.map_cons, List.map_nil, List.countP_cons, List.countP_nil, Procfs.pid?_encode]
    exact (hpids 2 3 (by decide)).trans (if_neg htwo)

end NodeWatch.Monitor
