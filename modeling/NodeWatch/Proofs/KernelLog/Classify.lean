import NodeWatch.KernelLog.Classify
import NodeWatch.Proofs.Text.Pattern
import NodeWatch.Proofs.Text.Quoted

/-!
# What a line of the kernel log means

The five reports are regular languages. A line reports the first of them that occurs in it, and
names what stands at the leftmost place of that report. The main statement is
`classify?_eq_iff_reports`.

The reports are searched for in different ways, but each search comes down to one question asked at
every place of the line from the left: `lockupAt?`, `bugAt?`, `crashAt?` and `blockedAt?` answer it.
-/

namespace NodeWatch.KernelLog

open Computability Text

/-- A soft lockup: the processor and the length of time are any text. -/
def lockup : Language Char :=
  exactly "watchdog: BUG: soft lockup - " * dot∗ * exactly " stuck for " * dot∗ * exactly "! [" *
    dot∗ * exactly "]"

/-- A kernel bug: any text in brackets, and a report. -/
def bug : Language Char :=
  exactly "[" * dot∗ * exactly "] BUG: " * dot∗

/-- Characters of a process name in a report of a segmentation fault. -/
def inName (c : Char) : Bool :=
  !isSpace c && c != '[' && c != ']'

def trap : Language Char :=
  exactly "traps:" * (oneOf isSpace)∗ * dot∗ * exactly "["

def fault : Language Char :=
  oneOf isSpace * manyOf inName * exactly "[" * manyOf isDecimalDigit * exactly "]: segfault at"

/-- A crashed process: a trap or a segmentation fault. -/
def crash : Language Char :=
  trap + fault

/-- The number of a blocked process and the report. -/
def blockedNumber : Language Char :=
  manyOf isDecimalDigit * exactly " blocked for more than"

/-- A blocked process. -/
def blocked : Language Char :=
  exactly "task " * dot∗ * exactly ":" * blockedNumber

/-- A full connection table. -/
def fullTable : Language Char :=
  (exactly "ip" + exactly "nf") * exactly "_conntrack: table full, dropping packet"

/-! ### Lockups, bugs and blocked processes -/

/-- The length that the rest of a report in one stretch gives. -/
def lengthIn? (rest : List Char) : Option (List Char) :=
  (beforeLast? [']'] (fun _ => true) rest).bind fun report =>
    report |> lastMatch? fun s =>
      (" stuck for ".toList.isPrefixOf? s).bind (beforeLast? "! [".toList fun _ => true)

/-- Whatever stands before a bracket stands before the last one. -/
lemma prefix_of_beforeLast? {s before front : List Char}
    (h : beforeLast? [']'] (fun _ => true) s = some before) (tail : List Char)
    (hs : s = front ++ ']' :: tail) : front <+: before := by
  obtain ⟨⟨rest, hsplit, -⟩, hlast⟩ := beforeLast?_eq_some (by simp) h
  have hfront : front <+: s := ⟨']' :: tail, hs.symm⟩
  have hbefore : before <+: s := ⟨[']'] ++ rest, hsplit.symm⟩
  exact List.prefix_of_prefix_length_le hfront hbefore (hlast front ⟨tail, hs, rfl⟩)

/-- Where the length stands in the rest of a report: between the last ` stuck for ` that an opening
`! [` and a bracket follow, and the last `! [` that a bracket follows. -/
structure LengthBetween (rest before length after : List Char) : Prop where
  split : rest = before ++ (" stuck for ".toList ++ (length ++ ("! [".toList ++ after)))
  closed : ']' ∈ after
  opening : ∀ before' after', rest = before' ++ ("! [".toList ++ after') → ']' ∈ after' →
    before'.length ≤ (before ++ " stuck for ".toList ++ length).length
  stuck : ∀ before' after', rest = before' ++ (" stuck for ".toList ++ after') →
    Occurs (exactly "! [" * dot∗ * exactly "]") after' → before'.length ≤ before.length

lemma lengthIn?_eq_some {rest length : List Char} (h : lengthIn? rest = some length) :
    ∃ before after, LengthBetween rest before length after := by
  obtain ⟨report, hreport, hlockup⟩ := Option.bind_eq_some_iff.mp h
  obtain ⟨⟨tail, hrest, -⟩, -⟩ := beforeLast?_eq_some (by simp) hreport
  obtain ⟨before, s, hsplit, hs, hstuck⟩ := lastMatch?_eq_some hlockup
  obtain ⟨u, hu, hlength⟩ := Option.bind_eq_some_iff.mp hs
  obtain ⟨⟨v, rfl, -⟩, hopening⟩ := beforeLast?_eq_some (by simp) hlength
  obtain rfl := isPrefixOf?_eq_some_iff.mp hu
  refine ⟨before, v ++ ']' :: tail, ?_, by simp, ?_, ?_⟩
  · rw [hrest, hsplit]
    simp
  · intro before' after' hsplit' hmem
    obtain ⟨x, z, rfl⟩ := List.append_of_mem hmem
    have hfront : before' ++ ("! [".toList ++ x) <+: report :=
      prefix_of_beforeLast? hreport z (by simp only [hsplit', List.append_assoc])
    obtain ⟨y, hy⟩ := hfront
    rcases Nat.le_total (before ++ " stuck for ".toList).length before'.length with hle | hle
    · have hfound : before ++ " stuck for ".toList <+: report :=
        ⟨length ++ ("! [".toList ++ v), by rw [hsplit, List.append_assoc]⟩
      have hother : before' <+: report :=
        ⟨"! [".toList ++ x ++ y, by rw [← hy]; simp only [List.append_assoc]⟩
      obtain ⟨q, rfl⟩ := List.prefix_of_prefix_length_le hfound hother hle
      have hopens : length ++ ("! [".toList ++ v) = q ++ ("! [".toList ++ (x ++ y)) := by
        have hboth := hsplit.symm.trans hy.symm
        simpa only [List.append_assoc, List.append_cancel_left_eq] using hboth
      have hlast := hopening q ⟨x ++ y, hopens, rfl⟩
      simp only [List.length_append]
      omega
    · exact hle.trans (List.prefix_append _ _).length_le
  · intro before' after' hsplit' hoccurs
    rw [mul_assoc, occurs_iff_starts] at hoccurs
    obtain ⟨x, found, rfl, hfound⟩ := hoccurs
    obtain ⟨opened, rfl, hopened⟩ := starts_exactly_mul_iff.mp hfound
    obtain ⟨m, bracket, rfl, -, hbracket⟩ := starts_mul_iff.mp hopened
    obtain ⟨z, rfl⟩ := starts_exactly_iff.mp hbracket
    obtain ⟨y, hy⟩ : before' ++ (" stuck for ".toList ++ (x ++ ("! [".toList ++ m))) <+: report :=
      prefix_of_beforeLast? hreport z (by simp [hsplit'])
    refine hstuck before' (" stuck for ".toList ++ (x ++ ("! [".toList ++ (m ++ y)))) ?_ ?_
    · rw [← hy]
      simp only [List.append_assoc]
    · rw [isPrefixOf?_append, Option.ne_none_iff_isSome]
      exact isSome_beforeLast? (by simp) ⟨m ++ y, rfl, rfl⟩

lemma isSome_lengthIn?_iff {rest : List Char} :
    (lengthIn? rest).isSome = true ↔ ∃ before length middle after, rest = before ++
      (" stuck for ".toList ++ (length ++ ("! [".toList ++ (middle ++ ']' :: after)))) := by
  constructor
  · intro h
    obtain ⟨length, hlength⟩ := Option.isSome_iff_exists.mp h
    obtain ⟨before, after, rfl, hmem, -, -⟩ := lengthIn?_eq_some hlength
    obtain ⟨middle, after, rfl⟩ := List.append_of_mem hmem
    exact ⟨before, length, middle, after, rfl⟩
  · rintro ⟨before, length, middle, after, hrest⟩
    have hfront : rest = before ++ (" stuck for ".toList ++ (length ++ ("! [".toList ++ middle))) ++
        ']' :: after := by
      simp only [hrest, List.append_assoc]
    have hclosed : (beforeLast? [']'] (fun _ => true) rest).isSome = true :=
      isSome_beforeLast? (by simp) ⟨after, hfront, rfl⟩
    obtain ⟨report, hreport⟩ := Option.isSome_iff_exists.mp hclosed
    obtain ⟨y, rfl⟩ := prefix_of_beforeLast? hreport after hfront
    rw [lengthIn?, hreport, Option.bind_some, ← Option.ne_none_iff_isSome, Ne,
      lastMatch?_eq_none_iff]
    intro hnone
    have hvalue := hnone before
      (" stuck for ".toList ++ (length ++ ("! [".toList ++ (middle ++ y))))
      (by simp only [List.append_assoc])
    rw [isPrefixOf?_append, Option.bind_some] at hvalue
    have hopens : (beforeLast? "! [".toList (fun _ => true)
        (length ++ ("! [".toList ++ (middle ++ y)))).isSome = true :=
      isSome_beforeLast? (by simp) ⟨middle ++ y, rfl, rfl⟩
    rw [hvalue] at hopens
    cases hopens

/-- The rest of a report, of which any text may come first. -/
lemma isSome_lengthIn?_iff_starts {rest : List Char} (hrest : '\n' ∉ rest) :
    (lengthIn? rest).isSome = true ↔ Starts (dot∗ * (exactly " stuck for " * (dot∗ *
      (exactly "! [" * (dot∗ * exactly "]"))))) rest := by
  rw [isSome_lengthIn?_iff, starts_dot_kstar_mul_iff hrest, occurs_exactly_mul_iff]
  constructor
  · rintro ⟨before, length, middle, after, rfl⟩
    have hlength : '\n' ∉ length := fun hmem => hrest (by simp [hmem])
    have hmiddle : '\n' ∉ middle := fun hmem => hrest (by simp [hmem])
    refine ⟨before, _, rfl, starts_mul_iff.mpr ⟨length, _, rfl, mem_dot_kstar.mpr hlength, ?_⟩⟩
    refine starts_exactly_mul_iff.mpr ⟨_, rfl, starts_mul_iff.mpr ⟨middle, _, rfl, ?_, ?_⟩⟩
    · exact mem_dot_kstar.mpr hmiddle
    · exact starts_exactly_iff.mpr ⟨after, rfl⟩
  · rintro ⟨before, s, rfl, hs⟩
    obtain ⟨length, t, rfl, -, ht⟩ := starts_mul_iff.mp hs
    obtain ⟨u, rfl, hu⟩ := starts_exactly_mul_iff.mp ht
    obtain ⟨middle, v, rfl, -, hv⟩ := starts_mul_iff.mp hu
    obtain ⟨after, rfl⟩ := starts_exactly_iff.mp hv
    exact ⟨before, length, middle, after, rfl⟩

lemma LengthBetween.occurs {rest before length after : List Char}
    (h : LengthBetween rest before length after) (hrest : '\n' ∉ rest) :
    Occurs (exactly "! [" * dot∗ * exactly "]") (length ++ ("! [".toList ++ after)) := by
  obtain ⟨middle, more, rfl⟩ := List.append_of_mem h.closed
  have hmiddle : '\n' ∉ middle := fun hmem => hrest (by rw [h.split]; simp [hmem])
  rw [mul_assoc, occurs_exactly_mul_iff]
  refine ⟨length, _, rfl, starts_mul_iff.mpr ⟨middle, _, rfl, mem_dot_kstar.mpr hmiddle, ?_⟩⟩
  exact starts_exactly_iff.mpr ⟨more, rfl⟩

/-- A stretch has one length. -/
lemma LengthBetween.unique {rest before length after before' length' after' : List Char}
    (h : LengthBetween rest before length after) (h' : LengthBetween rest before' length' after')
    (hrest : '\n' ∉ rest) : length = length' := by
  have hbefore := Nat.le_antisymm (h'.stuck before _ h.split (h.occurs hrest))
    (h.stuck before' _ h'.split (h'.occurs hrest))
  have hopening := Nat.le_antisymm
    (h'.opening (before ++ " stuck for ".toList ++ length) after
      (by simpa only [List.append_assoc] using h.split) h.closed)
    (h.opening (before' ++ " stuck for ".toList ++ length') after'
      (by simpa only [List.append_assoc] using h'.split) h'.closed)
  have hlength : length.length = length'.length := by
    simp only [List.length_append] at hopening
    omega
  have hsplit := (List.append_inj (h.split.symm.trans h'.split) hbefore).2
  exact (List.append_inj (List.append_cancel_left hsplit) hlength).1

lemma lengthIn?_eq_some_iff {rest length : List Char} (hrest : '\n' ∉ rest) :
    lengthIn? rest = some length ↔ ∃ before after, LengthBetween rest before length after := by
  refine ⟨lengthIn?_eq_some, ?_⟩
  rintro ⟨before, after, h⟩
  obtain ⟨middle, more, hafter⟩ := List.append_of_mem h.closed
  obtain ⟨length', hlength'⟩ := Option.isSome_iff_exists.mp
    (isSome_lengthIn?_iff.mpr ⟨before, length, middle, more, hafter ▸ h.split⟩)
  obtain ⟨before', after', h'⟩ := lengthIn?_eq_some hlength'
  rw [hlength', h.unique h' hrest]

/-- The length that a report at the front of a text gives. -/
def lockupAt? : List Char → Option (List Char) :=
  underHeading? "watchdog: BUG: soft lockup - " lengthIn?

lemma lockup_eq : lockup = exactly "watchdog: BUG: soft lockup - " * (dot∗ *
    (exactly " stuck for " * (dot∗ * (exactly "! [" * (dot∗ * exactly "]"))))) := by
  simp only [lockup, mul_assoc]

lemma oneLine_lockup : OneLine lockup := by
  rw [lockup_eq]
  exact (oneLine_exactly (by decide)).mul (oneLine_dot_kstar.mul ((oneLine_exactly (by decide)).mul
    (oneLine_dot_kstar.mul ((oneLine_exactly (by decide)).mul (oneLine_dot_kstar.mul
      (oneLine_exactly (by decide)))))))

lemma isSome_lockupAt?_iff (s : List Char) : (lockupAt? s).isSome = true ↔ Starts lockup s := by
  have hline := oneLine_lockup
  rw [lockup_eq] at hline ⊢
  exact isSome_underHeading?_iff hline (fun _ => isSome_lengthIn?_iff_starts) s

/-- What a lockup report at the front of a text says about its length. -/
def LockupNames (s length : List Char) : Prop :=
  ∃ rest before after, s.takeWhile (· ≠ '\n') = "watchdog: BUG: soft lockup - ".toList ++ rest ∧
    LengthBetween rest before length after

lemma lockupAt?_eq_some_iff {s length : List Char} :
    lockupAt? s = some length ↔ LockupNames s length := by
  rw [lockupAt?, underHeading?_eq_some_iff, LockupNames]
  refine exists_congr fun rest => ?_
  constructor
  · rintro ⟨hrest, hlength⟩
    obtain ⟨before, after, h⟩ := lengthIn?_eq_some hlength
    exact ⟨before, after, hrest, h⟩
  · rintro ⟨before, after, hrest, h⟩
    refine ⟨hrest, (lengthIn?_eq_some_iff fun hmem => ?_).mpr ⟨before, after, h⟩⟩
    exact newline_not_mem_stretch s (hrest ▸ List.mem_append_right _ hmem)

lemma lockupLength?_eq (line : List Char) : lockupLength? line = firstMatch? lockupAt? line := by
  refine findSome?_after?_eq (g := lengthIn?) (fun front rest hsome => ?_) line
  obtain ⟨before, length, middle, after, rfl⟩ := isSome_lengthIn?_iff.mp hsome
  exact isSome_lengthIn?_iff.mpr ⟨front ++ before, length, middle, after, by simp⟩

/-- Something, if a bug is reported in the rest of a stretch. -/
def bugIn? (rest : List Char) : Option Unit :=
  if contains "] BUG: ".toList rest then some () else none

/-- Something, if a bug is reported at the front of a text. -/
def bugAt? : List Char → Option Unit :=
  underHeading? "[" bugIn?

lemma isSome_bugIn?_iff (rest : List Char) :
    (bugIn? rest).isSome = contains "] BUG: ".toList rest :=
  isSome_contained? "] BUG: " rest

lemma isSome_bugAt?_iff (s : List Char) : (bugAt? s).isSome = true ↔ Starts bug s := by
  have hbug : bug = exactly "[" * (dot∗ * (exactly "] BUG: " * dot∗)) := by
    simp only [bug, mul_assoc]
  rw [hbug]
  refine isSome_underHeading?_iff ?_ (fun rest hrest => ?_) s
  · exact (oneLine_exactly (by decide)).mul
      (oneLine_dot_kstar.mul ((oneLine_exactly (by decide)).mul oneLine_dot_kstar))
  · rw [isSome_bugIn?_iff, contains_iff, starts_dot_kstar_mul_iff hrest, occurs_exactly_mul_iff]
    simp only [dot, starts_kstar, and_true]

lemma reportsBug_eq (line : List Char) : reportsBug line = (firstMatch? bugAt? line).isSome :=
  any_stretches_eq "[" "] BUG: " line

/-- The process of a report at the front of a text. -/
def blockedAt? : List Char → Option (List Char) :=
  underHeading? "task " (beforeFirst? [':'] startsBlocked)

lemma startsBlocked_iff (s : List Char) : startsBlocked s = true ↔ Starts blockedNumber s :=
  starts_manyOf_exactly_iff rfl rfl s

lemma isSome_blockedIn?_iff {rest : List Char} :
    (beforeFirst? [':'] startsBlocked rest).isSome = true ↔
      Occurs (exactly ":" * blockedNumber) rest := by
  rw [occurs_exactly_mul_iff]
  constructor
  · intro h
    obtain ⟨before, hbefore⟩ := Option.isSome_iff_exists.mp h
    obtain ⟨⟨after, hsplit, hblocked⟩, -⟩ := beforeFirst?_eq_some hbefore
    exact ⟨before, after, hsplit, (startsBlocked_iff after).mp hblocked⟩
  · rintro ⟨before, after, hsplit, hblocked⟩
    exact isSome_beforeFirst? (by simp) ⟨after, hsplit, (startsBlocked_iff after).mpr hblocked⟩

lemma isSome_blockedAt?_iff (s : List Char) : (blockedAt? s).isSome = true ↔ Starts blocked s := by
  have hblocked : blocked = exactly "task " * (dot∗ * (exactly ":" * blockedNumber)) := by
    simp only [blocked, mul_assoc]
  rw [hblocked]
  refine isSome_underHeading?_iff ?_ (fun rest hrest => ?_) s
  · exact (oneLine_exactly (by decide)).mul (oneLine_dot_kstar.mul ((oneLine_exactly
      (by decide)).mul ((oneLine_manyOf (by decide)).mul (oneLine_exactly (by decide)))))
  · rw [isSome_blockedIn?_iff, starts_dot_kstar_mul_iff hrest]

/-- What a report of a blocked process at the front of a text says about the process: the shortest
text after the heading that a colon, the number of a blocked process and the report follow. -/
def BlockedNames (s process : List Char) : Prop :=
  ∃ rest after, s.takeWhile (· ≠ '\n') = "task ".toList ++ rest ∧
    rest = process ++ (":".toList ++ after) ∧ Starts blockedNumber after ∧
      ∀ process' after', rest = process' ++ (":".toList ++ after') →
        Starts blockedNumber after' → process.length ≤ process'.length

lemma blockedAt?_eq_some_iff {s process : List Char} :
    blockedAt? s = some process ↔ BlockedNames s process := by
  rw [blockedAt?, underHeading?_eq_some_iff, BlockedNames]
  refine exists_congr fun rest => ?_
  rw [beforeFirst?_eq_some_iff (by simp)]
  simp only [StandsBefore, startsBlocked_iff]
  constructor
  · rintro ⟨hrest, ⟨after, hsplit, hafter⟩, hfirst⟩
    exact ⟨after, hrest, hsplit, hafter, fun process' after' hsplit' hafter' =>
      hfirst process' ⟨after', hsplit', hafter'⟩⟩
  · rintro ⟨after, hrest, hsplit, hafter, hfirst⟩
    refine ⟨hrest, ⟨after, hsplit, hafter⟩, ?_⟩
    rintro process' ⟨after', hsplit', hafter'⟩
    exact hfirst process' after' hsplit' hafter'

lemma blocked?_eq (line : List Char) : blocked? line = firstMatch? blockedAt? line := by
  refine findSome?_after?_eq (g := beforeFirst? [':'] startsBlocked)
    (fun front rest hsome => ?_) line
  rw [isSome_blockedIn?_iff] at hsome ⊢
  obtain ⟨word, hword, hinfix⟩ := hsome
  exact ⟨word, hword, hinfix.trans (List.suffix_append front rest).isInfix⟩

/-! ### Crashes and full tables -/

/-- What is trimmed starts with another character than white space. -/
lemma isSpace_head_trimStart (s : List Char) {c : Char} {rest : List Char}
    (h : trimStart s = c :: rest) : isSpace c = false := by
  have hhead := List.head?_dropWhile_not isSpace s
  rw [← trimStart, h] at hhead
  simpa using hhead

/-- The process that a trap report at the front of a text names: what stands between the heading,
with the white space after it, and the first opening bracket. -/
def TrapNames (s process : List Char) : Prop :=
  ∃ space after, s = "traps:".toList ++ (space ++ (process ++ ("[".toList ++ after))) ∧
    (∀ c ∈ space, isSpace c = true) ∧ (∀ c, process.head? = some c → isSpace c = false) ∧
      '[' ∉ process ∧ '\n' ∉ process

lemma trapped?_eq_some {s process : List Char} (h : trapped? s = some process) :
    TrapNames s process := by
  obtain ⟨rest, hrest, hprocess⟩ := Option.bind_eq_some_iff.mp h
  obtain rfl := isPrefixOf?_eq_some_iff.mp hrest
  obtain ⟨⟨tail, hstretch, -⟩, hfirst⟩ := beforeFirst?_eq_some hprocess
  obtain ⟨after, hafter⟩ := List.takeWhile_prefix (l := trimStart rest) (· != '\n')
  rw [hstretch] at hafter
  refine ⟨rest.takeWhile isSpace, tail ++ after, ?_, ?_, ?_, ?_, ?_⟩
  · have hsplit : rest = rest.takeWhile isSpace ++ trimStart rest :=
      (List.takeWhile_append_dropWhile ..).symm
    conv_lhs => rw [hsplit, ← hafter]
    simp only [List.append_assoc]
    rfl
  · exact fun c hc => List.all_eq_true.mp List.all_takeWhile c hc
  · intro c hc
    obtain ⟨more, rfl⟩ : ∃ more, process = c :: more := List.head?_eq_some_iff.mp hc
    exact isSpace_head_trimStart rest hafter.symm
  · intro hmem
    obtain ⟨x, y, rfl⟩ := List.append_of_mem hmem
    have hle := hfirst x ⟨y ++ ("[".toList ++ tail), by rw [hstretch]; simp, rfl⟩
    simp only [List.length_append, List.length_cons] at hle
    omega
  · intro hmem
    have hall := List.all_eq_true.mp (List.all_takeWhile (p := (· != '\n')) (l := trimStart rest))
    rw [hstretch] at hall
    simpa using hall '\n' (List.mem_append_left _ hmem)

/-- The process of a trap report is what a reader finds by skipping the heading and the white space
and stopping at the bracket. -/
lemma TrapNames.eq_takeWhile {s process : List Char} (h : TrapNames s process) :
    process = ((s.drop "traps:".toList.length).dropWhile isSpace).takeWhile (· ≠ '[') := by
  obtain ⟨space, after, rfl, hspace, hhead, hbracket, -⟩ := h
  have hdrop : (process ++ ("[".toList ++ after)).dropWhile isSpace =
      process ++ ("[".toList ++ after) := by
    rcases process with _ | ⟨c, process⟩
    · rfl
    · exact List.dropWhile_cons_of_neg (by simp [hhead c rfl])
  have hprocess : ∀ c ∈ process, decide (c ≠ '[') = true :=
    fun c hc => decide_eq_true fun heq => hbracket (heq ▸ hc)
  rw [List.drop_left, List.dropWhile_append_of_pos hspace, hdrop]
  exact (takeWhile_append_cons hprocess (c := '[') (by simp) after).symm

lemma trap_eq : trap = exactly "traps:" * ((oneOf isSpace)∗ * (dot∗ * exactly "[")) := by
  simp only [trap, mul_assoc]

lemma TrapNames.starts {s process : List Char} (h : TrapNames s process) : Starts trap s := by
  obtain ⟨space, after, rfl, hspace, -, -, hline⟩ := h
  rw [trap_eq, starts_exactly_mul_iff]
  refine ⟨_, rfl, starts_mul_iff.mpr ⟨space, _, rfl, mem_oneOf_kstar.mpr hspace, ?_⟩⟩
  exact starts_mul_iff.mpr ⟨process, _, rfl, mem_dot_kstar.mpr hline,
    starts_exactly_iff.mpr ⟨after, rfl⟩⟩

lemma isSome_trapped?_iff (s : List Char) : (trapped? s).isSome = true ↔ Starts trap s := by
  constructor
  · intro h
    obtain ⟨process, hprocess⟩ := Option.isSome_iff_exists.mp h
    exact (trapped?_eq_some hprocess).starts
  · rw [trap_eq, starts_exactly_mul_iff]
    rintro ⟨rest, rfl, hrest⟩
    obtain ⟨space, t, rfl, hspace, ht⟩ := starts_mul_iff.mp hrest
    obtain ⟨process, u, rfl, hline, hu⟩ := starts_mul_iff.mp ht
    obtain ⟨after, rfl⟩ := starts_exactly_iff.mp hu
    have htrim : trimStart (space ++ (process ++ ("[".toList ++ after))) =
        process.dropWhile isSpace ++ '[' :: after := by
      rw [trimStart, List.dropWhile_append_of_pos (mem_oneOf_kstar.mp hspace),
        List.dropWhile_append]
      split_ifs with hempty
      · rw [List.isEmpty_iff.mp hempty]
        rfl
      · rfl
    have hstretch : (trimStart (space ++ (process ++ ("[".toList ++ after)))).takeWhile
        (· != '\n') = process.dropWhile isSpace ++ ('[' :: after).takeWhile (· != '\n') := by
      rw [htrim, List.takeWhile_append_of_pos fun c hc => ?_]
      have hne : c ≠ '\n' := by
        rintro rfl
        exact mem_dot_kstar.mp hline ((List.dropWhile_suffix isSpace).subset hc)
      simpa using hne
    have hstands : StandsBefore ['['] (fun _ => true)
        (process.dropWhile isSpace ++ ('[' :: after).takeWhile (· != '\n'))
        (process.dropWhile isSpace) := by
      refine ⟨after.takeWhile (· != '\n'), ?_, rfl⟩
      rw [List.takeWhile_cons_of_pos (by decide)]
      rfl
    rw [trapped?, isPrefixOf?_append, Option.bind_eq_bind, Option.bind_some, hstretch]
    exact isSome_beforeFirst? (by simp) hstands

lemma startsFault_iff (s : List Char) :
    ((s.head?.map isDecimalDigit).getD false &&
      "]: segfault at".toList.isPrefixOf (s.dropWhile isDecimalDigit)) = true ↔
        Starts (manyOf isDecimalDigit * exactly "]: segfault at") s :=
  starts_manyOf_exactly_iff rfl rfl s

/-- The process that a report of a segmentation fault at the front of a text names: the word after
the white space, up to a number in brackets. -/
def FaultNames (s process : List Char) : Prop :=
  ∃ c number after,
    s = c :: (process ++ ("[".toList ++ (number ++ ("]: segfault at".toList ++ after)))) ∧
      isSpace c = true ∧ process ∈ manyOf inName ∧ number ∈ manyOf isDecimalDigit

lemma faulted?_eq_some_iff {s process : List Char} :
    faulted? s = some process ↔ FaultNames s process := by
  have hunfold : faulted? s = some process ↔ (s.head?.map isSpace).getD false = true ∧
      (!(s.tail.takeWhile inName).isEmpty) = true ∧ ∃ rest,
        ['['].isPrefixOf? (s.tail.dropWhile inName) = some rest ∧
          (rest.head?.map isDecimalDigit).getD false = true ∧
            "]: segfault at".toList.isPrefixOf (rest.dropWhile isDecimalDigit) = true ∧
              s.tail.takeWhile inName = process := by
    unfold faulted?
    simp only [Option.bind_eq_bind, Option.bind_eq_some_iff, Option.guard_eq_some',
      Option.pure_def, Option.some.injEq, exists_const]
    rfl
  rw [hunfold]
  constructor
  · rintro ⟨hspace, hname, rest, hrest, hdigit, hreport, rfl⟩
    rcases s with _ | ⟨c, s⟩
    · cases hspace
    · obtain ⟨number, report, rfl, hnumber, hstarts⟩ := starts_mul_iff.mp
        ((startsFault_iff rest).mp (Bool.and_eq_true_iff.mpr ⟨hdigit, hreport⟩))
      obtain ⟨after, rfl⟩ := starts_exactly_iff.mp hstarts
      refine ⟨c, number, after, ?_, hspace, mem_manyOf.mpr ⟨by simpa using hname, ?_⟩, hnumber⟩
      · have hbracket := isPrefixOf?_eq_some_iff.mp hrest
        refine congrArg (c :: ·) (Eq.trans ?_ (congrArg (_ ++ ·) hbracket))
        exact (List.takeWhile_append_dropWhile ..).symm
      · exact fun d hd => List.all_eq_true.mp List.all_takeWhile d hd
  · rintro ⟨c, number, after, rfl, hspace, hname, hnumber⟩
    obtain ⟨hne, hall⟩ := mem_manyOf.mp hname
    obtain ⟨hdigit, hreport⟩ := Bool.and_eq_true_iff.mp ((startsFault_iff _).mpr
      (starts_mul_iff.mpr ⟨number, _, rfl, hnumber, starts_exactly_iff.mpr ⟨after, rfl⟩⟩))
    generalize number ++ ("]: segfault at".toList ++ after) = rest at hdigit hreport ⊢
    have htake : (process ++ ("[".toList ++ rest)).takeWhile inName = process :=
      takeWhile_append_cons hall (c := '[') (by decide) rest
    have hdrop : (process ++ ("[".toList ++ rest)).dropWhile inName = '[' :: rest :=
      dropWhile_append_cons hall (c := '[') (by decide) rest
    refine ⟨hspace, ?_, rest, ?_, hdigit, hreport, htake⟩
    · rw [List.tail_cons, htake]
      simpa using hne
    · rw [List.tail_cons, hdrop]
      rfl

lemma isSome_faulted?_iff (s : List Char) : (faulted? s).isSome = true ↔ Starts fault s := by
  have hfault : fault = oneOf isSpace * (manyOf inName * (exactly "[" * (manyOf isDecimalDigit *
      exactly "]: segfault at"))) := by
    simp only [fault, mul_assoc]
  rw [hfault, Option.isSome_iff_exists]
  simp only [faulted?_eq_some_iff]
  constructor
  · rintro ⟨process, c, number, after, rfl, hspace, hprocess, hnumber⟩
    refine starts_mul_iff.mpr ⟨[c], _, rfl, ⟨c, hspace, rfl⟩, ?_⟩
    refine starts_mul_iff.mpr ⟨process, _, rfl, hprocess, starts_exactly_mul_iff.mpr ⟨_, rfl, ?_⟩⟩
    exact starts_mul_iff.mpr ⟨number, _, rfl, hnumber, starts_exactly_iff.mpr ⟨after, rfl⟩⟩
  · intro h
    obtain ⟨_, s, rfl, ⟨c, hspace, rfl⟩, hs⟩ := starts_mul_iff.mp h
    obtain ⟨process, t, rfl, hprocess, ht⟩ := starts_mul_iff.mp hs
    obtain ⟨u, rfl, hu⟩ := starts_exactly_mul_iff.mp ht
    obtain ⟨number, v, rfl, hnumber, hv⟩ := starts_mul_iff.mp hu
    obtain ⟨after, rfl⟩ := starts_exactly_iff.mp hv
    exact ⟨process, c, number, after, rfl, hspace, hprocess, hnumber⟩

/-- The process of a crash report at the front of a text. -/
def crashAt? (s : List Char) : Option (List Char) :=
  (trapped? s).or (faulted? s)

/-- The process that a crash report at the front of a text names. -/
def CrashNames (s process : List Char) : Prop :=
  TrapNames s process ∨ FaultNames s process

lemma isSome_crashAt?_iff (s : List Char) : (crashAt? s).isSome = true ↔ Starts crash s := by
  rw [crashAt?, Option.isSome_or, Bool.or_eq_true, isSome_trapped?_iff, isSome_faulted?_iff, crash,
    starts_add_iff]

lemma crashAt?_eq_some_iff {s process : List Char} :
    crashAt? s = some process ↔ CrashNames s process := by
  rw [crashAt?, Option.or_eq_some_iff, CrashNames]
  constructor
  · rintro (htrap | ⟨-, hfault⟩)
    · exact .inl (trapped?_eq_some htrap)
    · exact .inr (faulted?_eq_some_iff.mp hfault)
  · rintro (htrap | hfault)
    · obtain ⟨process', hprocess'⟩ :=
        Option.isSome_iff_exists.mp ((isSome_trapped?_iff s).mpr htrap.starts)
      rw [hprocess', htrap.eq_takeWhile, ← (trapped?_eq_some hprocess').eq_takeWhile]
      exact .inl rfl
    · refine .inr ⟨?_, faulted?_eq_some_iff.mpr hfault⟩
      rw [← Option.not_isSome_iff_eq_none]
      intro hsome
      obtain ⟨process', htrap⟩ := Option.isSome_iff_exists.mp hsome
      obtain ⟨space, after, hsplit, -⟩ := trapped?_eq_some htrap
      obtain ⟨c, number, after', rfl, hspace, -⟩ := hfault
      obtain rfl : c = 't' := (List.cons_eq_cons.mp hsplit).1
      exact absurd hspace (by decide)

/-- Every crash report has an opening bracket. -/
lemma crashed?_eq (line : List Char) : crashed? line = firstMatch? crashAt? line := by
  rw [crashed?]
  split_ifs with hbracket
  · rfl
  · symm
    rw [firstMatch?_eq_none_iff]
    rintro before rest rfl
    rw [← Option.not_isSome_iff_eq_none]
    intro hsome
    obtain ⟨process, hprocess⟩ := Option.isSome_iff_exists.mp hsome
    refine hbracket (List.contains_iff_mem.mpr (List.mem_append_right _ ?_))
    rcases crashAt?_eq_some_iff.mp hprocess with ⟨space, after, rfl, -⟩ | ⟨c, number, after, rfl, -⟩
    · simp
    · simp

lemma reportsFullTable_iff (line : List Char) :
    reportsFullTable line = true ↔ Occurs fullTable line := by
  rw [reportsFullTable, Bool.or_eq_true, fullTable, add_mul, occurs_add_iff, exactly_mul_exactly,
    exactly_mul_exactly]
  exact or_congr contains_iff_occurs contains_iff_occurs

/-! ### The report of a line -/

lemma lockupCondition_eq (length : List Char) : lockupCondition length = {
    reason := "SoftLockup"
    message := s!"CPU stuck for {String.ofList length}"
    severity := .warning
    minOccurrences := 1 } :=
  rfl

lemma bugCondition_eq : bugCondition = {
    reason := "KernelBug"
    message := "A kernel bug was detected and reported by the Linux kernel"
    severity := .warning
    minOccurrences := 1 } :=
  rfl

lemma crashCondition_eq {process : List Char} {quoted : String} (h : Quotes process quoted.toList) :
    crashCondition process = {
      reason := "AppCrash"
      message := s!"Process {quoted} on the node has crashed"
      severity := .warning
      minOccurrences := 1 } := by
  rw [← String.ofList_toList (s := quoted), quotes_iff.mp h]
  rfl

lemma blockedCondition_eq {process : List Char} {quoted : String}
    (h : Quotes process quoted.toList) : blockedCondition process = {
      reason := "AppBlocked"
      message := s!"Process {quoted} has been blocked from scheduling for a long period of time"
      severity := .warning
      minOccurrences := 1 } := by
  rw [← String.ofList_toList (s := quoted), quotes_iff.mp h]
  rfl

lemma fullTableCondition_eq : fullTableCondition = {
    reason := "ConntrackExceededKernel"
    message := "Connection tracking exceeded the maximum for the kernel"
    severity := .warning
    minOccurrences := 1 } :=
  rfl

/-- What a line reports: the condition of the first of the reports that occurs in it, with what
stands at the leftmost place of that report. A process is named by its quoted form. -/
inductive Reports (line : List Char) : Option Condition → Prop
  | lockup {before rest length : List Char} :
    Leftmost lockup line before rest → LockupNames rest length →
      Reports line (some {
        reason := "SoftLockup"
        message := s!"CPU stuck for {String.ofList length}"
        severity := .warning
        minOccurrences := 1 })
  | bug :
    ¬ Occurs lockup line → Occurs bug line →
      Reports line (some {
        reason := "KernelBug"
        message := "A kernel bug was detected and reported by the Linux kernel"
        severity := .warning
        minOccurrences := 1 })
  | crash {before rest process : List Char} {quoted : String} :
    ¬ Occurs lockup line → ¬ Occurs bug line →
      Leftmost crash line before rest → CrashNames rest process → Quotes process quoted.toList →
        Reports line (some {
          reason := "AppCrash"
          message := s!"Process {quoted} on the node has crashed"
          severity := .warning
          minOccurrences := 1 })
  | blocked {before rest process : List Char} {quoted : String} :
    ¬ Occurs lockup line → ¬ Occurs bug line → ¬ Occurs crash line →
      Leftmost blocked line before rest → BlockedNames rest process → Quotes process quoted.toList →
        Reports line (some {
          reason := "AppBlocked"
          message := s!"Process {quoted} has been blocked from scheduling for a long period of time"
          severity := .warning
          minOccurrences := 1 })
  | fullTable :
    ¬ Occurs lockup line → ¬ Occurs bug line → ¬ Occurs crash line → ¬ Occurs blocked line →
      Occurs fullTable line →
        Reports line (some {
          reason := "ConntrackExceededKernel"
          message := "Connection tracking exceeded the maximum for the kernel"
          severity := .warning
          minOccurrences := 1 })
  | nothing :
    ¬ Occurs lockup line → ¬ Occurs bug line → ¬ Occurs crash line → ¬ Occurs blocked line →
      ¬ Occurs fullTable line → Reports line none

lemma lockupLength?_eq_some_iff {line length : List Char} :
    lockupLength? line = some length ↔
      ∃ before rest, Leftmost lockup line before rest ∧ LockupNames rest length := by
  simp only [lockupLength?_eq, firstMatch?_eq_some_iff_leftmost isSome_lockupAt?_iff,
    lockupAt?_eq_some_iff]

lemma lockupLength?_eq_none_iff {line : List Char} :
    lockupLength? line = none ↔ ¬ Occurs lockup line := by
  rw [lockupLength?_eq, firstMatch?_eq_none_iff_not_occurs isSome_lockupAt?_iff]

lemma reportsBug_iff {line : List Char} : reportsBug line = true ↔ Occurs bug line := by
  rw [reportsBug_eq, isSome_firstMatch?_iff isSome_bugAt?_iff]

lemma crashed?_eq_some_iff {line process : List Char} :
    crashed? line = some process ↔
      ∃ before rest, Leftmost crash line before rest ∧ CrashNames rest process := by
  simp only [crashed?_eq, firstMatch?_eq_some_iff_leftmost isSome_crashAt?_iff,
    crashAt?_eq_some_iff]

lemma crashed?_eq_none_iff {line : List Char} : crashed? line = none ↔ ¬ Occurs crash line := by
  rw [crashed?_eq, firstMatch?_eq_none_iff_not_occurs isSome_crashAt?_iff]

lemma blocked?_eq_some_iff {line process : List Char} :
    blocked? line = some process ↔
      ∃ before rest, Leftmost blocked line before rest ∧ BlockedNames rest process := by
  simp only [blocked?_eq, firstMatch?_eq_some_iff_leftmost isSome_blockedAt?_iff,
    blockedAt?_eq_some_iff]

lemma blocked?_eq_none_iff {line : List Char} : blocked? line = none ↔ ¬ Occurs blocked line := by
  rw [blocked?_eq, firstMatch?_eq_none_iff_not_occurs isSome_blockedAt?_iff]

section

variable {line before rest process : List Char}

lemma classify?_eq_crash (hlockup : ¬ Occurs lockup line) (hbug : ¬ Occurs bug line)
    (hleft : Leftmost crash line before rest) (hnames : CrashNames rest process) :
    classify? line = some (crashCondition process) := by
  rw [classify?, lockupLength?_eq_none_iff.mpr hlockup,
    crashed?_eq_some_iff.mpr ⟨_, _, hleft, hnames⟩]
  exact if_neg fun hreports => hbug (reportsBug_iff.mp hreports)

lemma classify?_eq_blocked (hlockup : ¬ Occurs lockup line) (hbug : ¬ Occurs bug line)
    (hcrash : ¬ Occurs crash line) (hleft : Leftmost blocked line before rest)
    (hnames : BlockedNames rest process) :
    classify? line = some (blockedCondition process) := by
  rw [classify?, lockupLength?_eq_none_iff.mpr hlockup, crashed?_eq_none_iff.mpr hcrash,
    blocked?_eq_some_iff.mpr ⟨_, _, hleft, hnames⟩]
  exact if_neg fun hreports => hbug (reportsBug_iff.mp hreports)

end

lemma reports_classify? (line : List Char) : Reports line (classify? line) := by
  unfold classify?
  rcases hlockup : lockupLength? line with _ | length
  · rw [lockupLength?_eq_none_iff] at hlockup
    by_cases hbug : reportsBug line = true
    · rw [if_pos hbug, bugCondition_eq]
      exact .bug hlockup (reportsBug_iff.mp hbug)
    · rw [if_neg hbug]
      rw [reportsBug_iff] at hbug
      rcases hcrash : crashed? line with _ | process
      · rw [crashed?_eq_none_iff] at hcrash
        rcases hblocked : blocked? line with _ | process
        · rw [blocked?_eq_none_iff] at hblocked
          by_cases htable : reportsFullTable line = true
          · rw [if_pos htable, fullTableCondition_eq]
            exact .fullTable hlockup hbug hcrash hblocked ((reportsFullTable_iff line).mp htable)
          · rw [if_neg htable]
            rw [reportsFullTable_iff] at htable
            exact .nothing hlockup hbug hcrash hblocked htable
        · obtain ⟨before, rest, hleft, hnames⟩ := blocked?_eq_some_iff.mp hblocked
          obtain ⟨quoted, hquotes, -⟩ := exists_quotes process
          show Reports line (some (blockedCondition process))
          rw [blockedCondition_eq hquotes]
          exact .blocked hlockup hbug hcrash hleft hnames hquotes
      · obtain ⟨before, rest, hleft, hnames⟩ := crashed?_eq_some_iff.mp hcrash
        obtain ⟨quoted, hquotes, -⟩ := exists_quotes process
        show Reports line (some (crashCondition process))
        rw [crashCondition_eq hquotes]
        exact .crash hlockup hbug hleft hnames hquotes
  · obtain ⟨before, rest, hleft, hnames⟩ := lockupLength?_eq_some_iff.mp hlockup
    show Reports line (some (lockupCondition length))
    rw [lockupCondition_eq]
    exact .lockup hleft hnames

/-- A line is classified as what it reports, and not at all if no report occurs in it. What the
message names is read at the leftmost place of the report: of a lockup, the text between the last
` stuck for ` and the last `! [` that can belong to it (`LengthBetween`); of a crash, the text after
`traps:` up to the bracket, or the word before the number (`TrapNames`, `FaultNames`); of a blocked
process, the shortest text after `task ` (`BlockedNames`). A quoted form is that of one name only, so
the message tells which process it is about. -/
theorem classify?_eq_iff_reports (line : List Char) (condition : Option Condition) :
    classify? line = condition ↔ Reports line condition := by
  constructor
  · rintro rfl
    exact reports_classify? line
  · intro h
    cases h with
    | lockup hleft hnames =>
      rw [classify?, lockupLength?_eq_some_iff.mpr ⟨_, _, hleft, hnames⟩, ← lockupCondition_eq]
    | bug hlockup hbug =>
      rw [classify?, lockupLength?_eq_none_iff.mpr hlockup, ← bugCondition_eq]
      exact if_pos (reportsBug_iff.mpr hbug)
    | crash hlockup hbug hleft hnames hquotes =>
      rw [classify?_eq_crash hlockup hbug hleft hnames, crashCondition_eq hquotes]
    | blocked hlockup hbug hcrash hleft hnames hquotes =>
      rw [classify?_eq_blocked hlockup hbug hcrash hleft hnames, blockedCondition_eq hquotes]
    | fullTable hlockup hbug hcrash hblocked htable =>
      rw [classify?, lockupLength?_eq_none_iff.mpr hlockup, crashed?_eq_none_iff.mpr hcrash,
        blocked?_eq_none_iff.mpr hblocked, ← fullTableCondition_eq]
      exact (if_neg fun hreports => hbug (reportsBug_iff.mp hreports)).trans
        (if_pos ((reportsFullTable_iff line).mpr htable))
    | nothing hlockup hbug hcrash hblocked htable =>
      rw [classify?, lockupLength?_eq_none_iff.mpr hlockup, crashed?_eq_none_iff.mpr hcrash,
        blocked?_eq_none_iff.mpr hblocked]
      exact (if_neg fun hreports => hbug (reportsBug_iff.mp hreports)).trans
        (if_neg fun hreports => htable ((reportsFullTable_iff line).mp hreports))

end NodeWatch.KernelLog
