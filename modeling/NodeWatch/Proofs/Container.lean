import NodeWatch.Container
import NodeWatch.Proofs.Text.Lines
import NodeWatch.Proofs.Text.Runs
import NodeWatch.Proofs.Text.Search

/-!
# Containers in control groups

Control groups are read line by line, and a line is split at its separators. What is found in that
way is said here of the text as a whole: a marker anywhere, or the number of a container at a place
with a separator or the end of a line on both sides (`IsNumber`). The main statement is
`mentionsRuntime_iff`.
-/

namespace NodeWatch.Container

open Text

def separators : List Char :=
  ['/', ':', '-', '.']

/-- The hexadecimal digits of ASCII. -/
def hexDigits : List Char :=
  "0123456789abcdefABCDEF".toList

def StartsLine (before : List Char) : Prop :=
  before = [] ∨ before.getLast? = some '\n'

/-- A line ends with the text, or with a line feed that may have a carriage return before it. -/
def EndsLine (after : List Char) : Prop :=
  after = [] ∨ after.head? = some '\n' ∨ ['\r', '\n'] <+: after

def IsLeftBound (before : List Char) : Prop :=
  StartsLine before ∨ ∃ c ∈ separators, before.getLast? = some c

def IsRightBound (after : List Char) : Prop :=
  EndsLine after ∨ ∃ c ∈ separators, after.head? = some c

/-- At least 32 hexadecimal digits, with a separator or the end of a line on both sides. -/
structure IsNumber (s : List Char) (x : Place Char) : Prop where
  split : s = x.before ++ (x.run ++ x.after)
  long : 32 ≤ x.run.length
  hex : ∀ c ∈ x.run, c ∈ hexDigits
  left : IsLeftBound x.before
  right : IsRightBound x.after

/-- Whether a text has a marker or the number of a container in it. -/
def Mentions (s : List Char) : Prop :=
  (∃ marker ∈ runtimeMarkers, marker.toList <:+: s) ∨ ∃ x, IsNumber s x

/-- Lines, each with a line feed at its end. -/
def ofLines (ls : List (List Char)) : List Char :=
  ls.flatMap (· ++ ['\n'])

variable {line ending s t w : List Char} {x : Place Char}

lemma isHexDigit_iff {c : Char} : isHexDigit c = true ↔ c ∈ hexDigits := by
  constructor
  · intro h
    have hascii : c.toNat < 128 := by
      simp only [isHexDigit, Char.isDigit, Bool.or_eq_true, Bool.and_eq_true, decide_eq_true_eq,
        ge_iff_le, Char.le_def, UInt32.le_iff_toNat_le] at h
      rcases h with (⟨-, h⟩ | ⟨-, h⟩) | ⟨-, h⟩ <;> exact Nat.lt_of_le_of_lt h (by decide)
    have hall : ∀ n < 128, isHexDigit (Char.ofNat n) = true → Char.ofNat n ∈ hexDigits := by
      decide +kernel
    have hmem := hall c.toNat hascii
    rw [Char.ofNat_toNat] at hmem
    exact hmem h
  · have hall : hexDigits.all isHexDigit = true := by decide +kernel
    exact List.all_eq_true.mp hall c

lemma hexDigits_apart {c : Char} (hc : c ∈ hexDigits) :
    c ∉ separators ∧ ¬ (c = '\n' ∨ c = '\r') := by
  have hall : (hexDigits.all fun c => c ∉ separators ∧ ¬ (c = '\n' ∨ c = '\r')) = true := by
    decide +kernel
  exact of_decide_eq_true (List.all_eq_true.mp hall c hc)

lemma isContainerId_iff {part : List Char} :
    isContainerId part = true ↔ 32 ≤ part.length ∧ ∀ c ∈ part, c ∈ hexDigits := by
  simp only [isContainerId, Bool.and_eq_true, decide_eq_true_eq, List.all_eq_true, isHexDigit_iff]

lemma IsNumber.ne_nil (h : IsNumber s x) : x.run ≠ [] := by
  intro hnil
  have hlong := h.long
  rw [hnil] at hlong
  exact absurd hlong (by decide)

lemma isLeftBound_iff (hw : '\n' ∉ w) :
    IsLeftBound w ↔ ∀ c ∈ w.getLast?, c ∈ separators := by
  rcases w.eq_nil_or_concat with rfl | ⟨w, c, rfl⟩
  · simp [IsLeftBound, StartsLine]
  · have hc : c ≠ '\n' := fun heq => hw (by simp [heq])
    simp [IsLeftBound, StartsLine, hc]

lemma not_endsLine (hw : '\n' ∉ w) (hne : w ≠ []) : ¬ EndsLine w := by
  rintro (hnil | hhead | hreturn)
  · exact hne hnil
  · exact hw (List.mem_of_mem_head? hhead)
  · exact hw (hreturn.subset (by simp))

lemma isRightBound_iff (hw : '\n' ∉ w) :
    IsRightBound w ↔ ∀ c ∈ w.head?, c ∈ separators := by
  rcases w with _ | ⟨c, w⟩
  · simp [IsRightBound, EndsLine]
  · simp [IsRightBound, not_endsLine hw]

/-- Within a line, the numbers are parts between separators. -/
lemma isNumber_iff_isRun (hline : '\n' ∉ line) : IsNumber line x ↔
    IsRun (fun c => decide (c ∉ separators)) line x ∧ isContainerId x.run = true := by
  have hbounds (hsplit : line = x.before ++ (x.run ++ x.after)) :
      '\n' ∉ x.before ∧ '\n' ∉ x.after := by
    rw [hsplit] at hline
    simp only [List.mem_append, not_or] at hline
    exact ⟨hline.1, hline.2.2⟩
  rw [isContainerId_iff]
  constructor
  · intro h
    obtain ⟨hbefore, hafter⟩ := hbounds h.split
    have hleft := (isLeftBound_iff hbefore).mp h.left
    have hright := (isRightBound_iff hafter).mp h.right
    exact ⟨⟨h.split, h.ne_nil, fun c hc => decide_eq_true (hexDigits_apart (h.hex c hc)).1,
      fun c hc => by simpa using hleft c hc, fun c hc => by simpa using hright c hc⟩, h.long, h.hex⟩
  · rintro ⟨h, hlong, hhex⟩
    obtain ⟨hbefore, hafter⟩ := hbounds h.split
    exact ⟨h.split, hlong, hhex,
      (isLeftBound_iff hbefore).mpr fun c hc => by simpa using h.left c hc,
      (isRightBound_iff hafter).mpr fun c hc => by simpa using h.right c hc⟩

lemma any_isContainerId_iff (hline : '\n' ∉ line) :
    (line.splitOnP fun c => c == '/' || c == ':' || c == '-' || c == '.').any isContainerId = true ↔
      ∃ x, IsNumber line x := by
  have hseparators : (fun c => c == '/' || c == ':' || c == '-' || c == '.') =
      fun c => !decide (c ∉ separators) := by
    funext c
    rw [Bool.eq_iff_iff]
    simp [separators, or_assoc]
  have hruns : (line.splitOnP fun c => !decide (c ∉ separators)).any isContainerId =
      (runs (fun c => decide (c ∉ separators)) line).any isContainerId := by
    rw [runs, List.any_filter]
    refine congrArg (List.any _) (funext fun part => ?_)
    rcases part with _ | ⟨c, part⟩ <;> rfl
  rw [hseparators, hruns, List.any_eq_true]
  constructor
  · rintro ⟨part, hpart, hid⟩
    obtain ⟨x, hx, rfl⟩ := mem_runs_iff.mp hpart
    exact ⟨x, (isNumber_iff_isRun hline).mpr ⟨hx, hid⟩⟩
  · rintro ⟨x, hx⟩
    obtain ⟨hrun, hid⟩ := (isNumber_iff_isRun hline).mp hx
    exact ⟨x.run, mem_runs_iff.mpr ⟨x, hrun, rfl⟩, hid⟩

lemma lineMentionsRuntime_iff (hline : '\n' ∉ line) :
    lineMentionsRuntime line = true ↔ Mentions line := by
  rw [lineMentionsRuntime, Bool.or_eq_true, any_isContainerId_iff hline, List.any_eq_true, Mentions]
  simp only [contains_iff_isInfix]

lemma endsLine_ending (h : IsEnding line ending) (t : List Char) : EndsLine (ending ++ t) := by
  rcases h with ⟨rfl, -⟩ | rfl
  · exact .inr (.inl rfl)
  · exact .inr (.inr ⟨t, rfl⟩)

/-- No line ends within a line. -/
lemma not_endsLine_append_ending (hline : '\n' ∉ line) (hending : IsEnding line ending)
    (hw : w <:+ line) (hne : w ≠ []) (t : List Char) : ¬ EndsLine (w ++ (ending ++ t)) := by
  obtain ⟨c, w, rfl⟩ := List.exists_cons_of_ne_nil hne
  rintro (hnil | hhead | hreturn)
  · cases hnil
  · cases hhead
    exact hline (hw.subset List.mem_cons_self)
  · obtain ⟨hc, hfeed⟩ := List.cons_prefix_cons.mp hreturn
    rcases w with _ | ⟨d, w⟩
    · -- a carriage return at the end of a line belongs to its ending
      rcases hending with ⟨-, hlast⟩ | rfl
      · refine hlast ?_
        obtain ⟨front, rfl⟩ := hw
        rw [List.getLast?_concat, hc]
      · simp at hfeed
    · obtain rfl : '\n' = d := (List.cons_prefix_cons.mp hfeed).1
      exact hline (hw.subset (by simp))

/-- A line ends with a bound. -/
lemma isRightBound_append_ending_iff (hline : '\n' ∉ line) (hending : IsEnding line ending)
    (hw : w <:+ line) (t : List Char) : IsRightBound (w ++ (ending ++ t)) ↔ IsRightBound w := by
  rcases eq_or_ne w [] with rfl | hne
  · exact iff_of_true (.inl (endsLine_ending hending t)) (.inl (.inl rfl))
  · have hfeed : '\n' ∉ w := fun hmem => hline (hw.subset hmem)
    rw [IsRightBound, IsRightBound, List.head?_append_of_ne_nil _ hne,
      iff_false_intro (not_endsLine_append_ending hline hending hw hne t),
      iff_false_intro (not_endsLine hfeed hne)]

/-- A line starts with a bound. -/
lemma isLeftBound_append_ending_iff (hending : IsEnding line ending) (w : List Char) :
    IsLeftBound (line ++ (ending ++ w)) ↔ IsLeftBound w := by
  rcases eq_or_ne w [] with rfl | hne
  · refine iff_of_true (.inl (.inr ?_)) (.inl (.inl rfl))
    rcases hending with ⟨rfl, -⟩ | rfl <;> simp
  · rw [IsLeftBound, IsLeftBound, StartsLine, StartsLine, ← List.append_assoc,
      List.getLast?_append_of_ne_nil _ hne]
    simp [hne]

/-- A number stands in one line. -/
lemma exists_isNumber_append_ending_iff (hline : '\n' ∉ line) (hending : IsEnding line ending)
    (t : List Char) : (∃ x, IsNumber (line ++ (ending ++ t)) x) ↔
      (∃ x, IsNumber line x) ∨ ∃ x, IsNumber t x := by
  constructor
  · rintro ⟨x, hx⟩
    have hout : ∀ c ∈ x.run, c ∉ ending := fun c hc hmem =>
      (hexDigits_apart (hx.hex c hc)).2 (hending.mem hmem)
    rcases stretch_cases hending.ne_nil hx.ne_nil hout hx.split with
      ⟨w, hsplit, hafter⟩ | ⟨w, hbefore, hsplit⟩
    · have hw : w <:+ line := ⟨x.before ++ x.run, by rw [hsplit, List.append_assoc]⟩
      have hright := hx.right
      rw [hafter, isRightBound_append_ending_iff hline hending hw] at hright
      exact .inl ⟨⟨x.before, x.run, w⟩, hsplit, hx.long, hx.hex, hx.left, hright⟩
    · have hleft := hx.left
      rw [hbefore, isLeftBound_append_ending_iff hending] at hleft
      exact .inr ⟨⟨w, x.run, x.after⟩, hsplit, hx.long, hx.hex, hleft, hx.right⟩
  · rintro (⟨x, hx⟩ | ⟨x, hx⟩)
    · have hw : x.after <:+ line := ⟨x.before ++ x.run, by rw [hx.split, List.append_assoc]⟩
      have hright := (isRightBound_append_ending_iff hline hending hw t).mpr hx.right
      refine ⟨⟨x.before, x.run, x.after ++ (ending ++ t)⟩, ?_, hx.long, hx.hex, hx.left, hright⟩
      conv_lhs => rw [hx.split]
      simp only [List.append_assoc]
    · have hleft := (isLeftBound_append_ending_iff hending x.before).mpr hx.left
      refine ⟨⟨line ++ (ending ++ x.before), x.run, x.after⟩, ?_, hx.long, hx.hex, hleft, hx.right⟩
      conv_lhs => rw [hx.split]
      simp only [List.append_assoc]

lemma mentions_append_ending_iff (hline : '\n' ∉ line) (hending : IsEnding line ending)
    (t : List Char) : Mentions (line ++ (ending ++ t)) ↔ Mentions line ∨ Mentions t := by
  have hmarkers : (runtimeMarkers.all fun marker =>
      marker.toList.all fun c => ¬ (c = '\n' ∨ c = '\r')) = true := by
    decide +kernel
  have hinfix : (∃ marker ∈ runtimeMarkers, marker.toList <:+: line ++ (ending ++ t)) ↔
      (∃ marker ∈ runtimeMarkers, marker.toList <:+: line) ∨
        ∃ marker ∈ runtimeMarkers, marker.toList <:+: t := by
    simp only [← exists_or, ← and_or_left]
    refine exists_congr fun marker => and_congr_right fun hmarker => ?_
    have hall := List.all_eq_true.mp (List.all_eq_true.mp hmarkers marker hmarker)
    exact isInfix_append_gap_iff hending.ne_nil
      fun c hc hmem => of_decide_eq_true (hall c hc) (hending.mem hmem)
  rw [Mentions, hinfix, exists_isNumber_append_ending_iff hline hending, or_or_or_comm]
  rfl

/-- What is found line by line is what the text as a whole has. -/
lemma mentionsRuntime_iff_mentions (s : List Char) : mentionsRuntime s = true ↔ Mentions s := by
  induction s using lines_induction with
  | last s hs =>
    rw [← lineMentionsRuntime_iff hs, mentionsRuntime, lines_of_not_mem hs]
    rcases s with _ | ⟨c, s⟩
    · decide
    · simp
  | line line ending t hline hending ih =>
    rw [mentionsRuntime, lines_append_ending hline hending, List.any_cons, Bool.or_eq_true,
      ← mentionsRuntime, ih, lineMentionsRuntime_iff hline,
      mentions_append_ending_iff hline hending]

lemma mentionsRuntime_ofLines (ls : List (List Char)) :
    mentionsRuntime (ofLines ls) = ls.any fun l => mentionsRuntime (l ++ ['\n']) := by
  induction ls with
  | nil => rfl
  | cons l ls ih =>
    rw [ofLines, List.flatMap_cons, ← ofLines, mentionsRuntime, lines_append (by simp),
      List.any_append, ← mentionsRuntime, ← mentionsRuntime, ih, List.any_cons]

/-- A text mentions a runtime if and only if a marker occurs anywhere in it or the number of a
container stands in it between bounds. So if every line ends with a line feed, the order of the
lines does not matter, and a text that mentions a runtime still does when lines are added anywhere.
-/
theorem mentionsRuntime_iff :
    (∀ s, mentionsRuntime s = true ↔
      (∃ marker ∈ runtimeMarkers, marker.toList <:+: s) ∨ ∃ x, IsNumber s x) ∧
    (∀ ls ls' : List (List Char), ls.Perm ls' →
      mentionsRuntime (ofLines ls) = mentionsRuntime (ofLines ls')) ∧
    ∀ ls ls' : List (List Char), ls ⊆ ls' →
      mentionsRuntime (ofLines ls) = true → mentionsRuntime (ofLines ls') = true := by
  refine ⟨mentionsRuntime_iff_mentions, fun ls ls' hperm => ?_, fun ls ls' hsubset h => ?_⟩
  · rw [mentionsRuntime_ofLines, mentionsRuntime_ofLines]
    exact hperm.any_eq
  · rw [mentionsRuntime_ofLines, List.any_eq_true] at h ⊢
    obtain ⟨l, hl, hmentions⟩ := h
    exact ⟨l, hsubset hl, hmentions⟩

/-- A number of 32 digits before a carriage return, in the second of two lines. -/
theorem mentionsRuntime_iff_carriageReturn : mentionsRuntime (ofLines
    ["0::/init.scope".toList, "0::/a.0123456789abcdef0123456789ABCDEF\r".toList]) = true := by
  obtain ⟨hfound, hperm, hadd⟩ := mentionsRuntime_iff
  have hline : mentionsRuntime (ofLines
      ["0::/a.0123456789abcdef0123456789ABCDEF\r".toList]) = true := by
    let x : Place Char :=
      ⟨"0::/a.".toList, "0123456789abcdef0123456789ABCDEF".toList, ['\r', '\n']⟩
    have hsplit : ofLines ["0::/a.0123456789abcdef0123456789ABCDEF\r".toList] =
        x.before ++ (x.run ++ x.after) := by
      decide +kernel
    have hid : isContainerId x.run = true := by decide +kernel
    obtain ⟨hlong, hhex⟩ := isContainerId_iff.mp hid
    refine (hfound _).mpr (.inr ⟨x, hsplit, hlong, hhex, ?_, ?_⟩)
    · exact .inr ⟨'.', by decide, by decide +kernel⟩
    · exact .inl (.inr (.inr ⟨[], rfl⟩))
  rw [hperm _ _ (List.Perm.swap _ _ [])]
  exact hadd _ _ (by simp) hline

end NodeWatch.Container
