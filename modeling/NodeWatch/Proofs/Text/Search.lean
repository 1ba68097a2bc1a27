import Mathlib.Data.List.Infix
import Mathlib.Tactic.Common
import NodeWatch.Text.Lines
import NodeWatch.Text.Search

/-!
# What a search finds

The places that searches find, said by how the sequence splits there: the first or last of all
splits with some property. A search within the stretches of a text, one after the other, is a search
of the text as a whole for what lies in front of the next line feed.
-/

namespace NodeWatch.Text

variable {α β : Type}

/-- Of two splits of a sequence, the front without `a` is not longer than the front that `a`
follows. -/
lemma prefix_of_not_mem {a : α} {u s v t : List α} (h : u ++ s = v ++ a :: t) (ha : a ∉ u) :
    u <+: v := by
  rcases List.append_eq_append_iff.mp h with ⟨w, rfl, -⟩ | ⟨w, rfl, hw⟩
  · exact List.prefix_append u w
  · rcases w with _ | ⟨b, w⟩
    · simp
    · obtain rfl : a = b := (List.cons_eq_cons.mp hw).1
      exact absurd (List.mem_append_right v List.mem_cons_self) ha

/-- The first `a` splits a sequence in one way. -/
lemma split_inj {a : α} {u s v t : List α} (h : u ++ a :: s = v ++ a :: t) (hu : a ∉ u)
    (hv : a ∉ v) : u = v ∧ s = t := by
  have hlength := Nat.le_antisymm (prefix_of_not_mem h hu).length_le
    (prefix_of_not_mem h.symm hv).length_le
  obtain ⟨rfl, hrest⟩ := List.append_inj h hlength
  exact ⟨rfl, (List.cons_eq_cons.mp hrest).2⟩

/-- The last `a` splits a sequence. -/
lemma exists_last_split {a : α} {s : List α} (ha : a ∈ s) :
    ∃ before rest, s = before ++ a :: rest ∧ a ∉ rest := by
  obtain ⟨after, before, hsplit, hafter⟩ := List.eq_append_cons_of_mem (List.mem_reverse.mpr ha)
  refine ⟨before.reverse, after.reverse, ?_, by simpa using hafter⟩
  simpa using congrArg List.reverse hsplit

/-- A stretch without elements of a gap stands before the gap or behind it. -/
lemma stretch_cases {gap u before after s t : List α} (hgap : gap ≠ []) (hne : u ≠ [])
    (hu : ∀ a ∈ u, a ∉ gap) (h : s ++ (gap ++ t) = before ++ (u ++ after)) :
    (∃ w, s = before ++ (u ++ w) ∧ after = w ++ (gap ++ t)) ∨
      ∃ w, before = s ++ (gap ++ w) ∧ t = w ++ (u ++ after) := by
  rcases List.append_eq_append_iff.mp h with ⟨front, rfl, hfront⟩ | ⟨back, rfl, hback⟩
  · right
    rcases List.append_eq_append_iff.mp hfront with ⟨w, rfl, rfl⟩ | ⟨_ | ⟨a, v⟩, rfl, hstretch⟩
    · exact ⟨w, rfl, rfl⟩
    · exact ⟨[], by simp, hstretch.symm⟩
    · obtain ⟨b, u, rfl⟩ := List.exists_cons_of_ne_nil hne
      obtain rfl : b = a := (List.cons_eq_cons.mp hstretch).1
      exact absurd (List.mem_append_right front List.mem_cons_self) (hu b List.mem_cons_self)
  · left
    rcases List.append_eq_append_iff.mp hback with ⟨w, rfl, rfl⟩ | ⟨_ | ⟨a, v⟩, rfl, hstretch⟩
    · exact ⟨w, rfl, rfl⟩
    · exact ⟨[], by simp, hstretch.symm⟩
    · obtain ⟨b, gap, rfl⟩ := List.exists_cons_of_ne_nil hgap
      obtain rfl : b = a := (List.cons_eq_cons.mp hstretch).1
      exact absurd List.mem_cons_self (hu b (List.mem_append_right back List.mem_cons_self))

lemma isInfix_append_gap_iff {gap word s t : List α} (hgap : gap ≠ [])
    (hword : ∀ a ∈ word, a ∉ gap) : word <:+: s ++ (gap ++ t) ↔ word <:+: s ∨ word <:+: t := by
  rcases eq_or_ne word [] with rfl | hne
  · simp
  constructor
  · rintro ⟨before, after, h⟩
    rw [List.append_assoc] at h
    rcases stretch_cases hgap hne hword h.symm with ⟨w, rfl, -⟩ | ⟨w, -, rfl⟩
    · exact .inl (List.infix_append' before word w)
    · exact .inr (List.infix_append' w word after)
  · rintro (h | h)
    · exact h.trans (List.prefix_append s _).isInfix
    · exact h.trans ((List.suffix_append gap t).trans (List.suffix_append s _)).isInfix

lemma firstMatch?_cons (f : List α → Option β) (a : α) (s : List α) :
    firstMatch? f (a :: s) = (f (a :: s)).or (firstMatch? f s) := by
  rw [firstMatch?]
  rcases f (a :: s) with _ | b <;> rfl

/-- Nothing is found where no suffix has a value. -/
lemma firstMatch?_eq_none_iff {f : List α → Option β} {s : List α} :
    firstMatch? f s = none ↔ ∀ before rest, s = before ++ rest → f rest = none := by
  induction s with
  | nil => simp [firstMatch?]
  | cons a s ih =>
    rw [firstMatch?_cons, Option.or_eq_none_iff, ih]
    constructor
    · rintro ⟨hhere, hlater⟩ before rest hsplit
      rcases List.cons_eq_append_iff.mp hsplit with ⟨-, rfl⟩ | ⟨before, -, hsplit⟩
      · exact hhere
      · exact hlater before rest hsplit
    · intro hnone
      refine ⟨hnone [] (a :: s) rfl, fun before rest hsplit => hnone (a :: before) rest ?_⟩
      rw [hsplit, List.cons_append]

/-- What is found is the value on the longest suffix that has one. -/
lemma firstMatch?_eq_some {f : List α → Option β} {s : List α} {b : β}
    (h : firstMatch? f s = some b) :
    ∃ before rest, s = before ++ rest ∧ f rest = some b ∧
      ∀ before' rest', s = before' ++ rest' → f rest' ≠ none → before.length ≤ before'.length := by
  induction s with
  | nil => exact ⟨[], [], rfl, h, fun _ _ _ _ => Nat.zero_le _⟩
  | cons a s ih =>
    rw [firstMatch?_cons, Option.or_eq_some_iff] at h
    rcases h with h | ⟨hnone, h⟩
    · exact ⟨[], a :: s, rfl, h, fun _ _ _ _ => Nat.zero_le _⟩
    · obtain ⟨before, rest, rfl, hrest, hfirst⟩ := ih h
      refine ⟨a :: before, rest, rfl, hrest, fun before' rest' hsplit hvalue => ?_⟩
      rcases List.cons_eq_append_iff.mp hsplit with ⟨-, rfl⟩ | ⟨front, rfl, hfront⟩
      · exact absurd hnone hvalue
      · exact Nat.succ_le_succ (hfirst front rest' hfront hvalue)

lemma lastMatch?_cons (f : List α → Option β) (a : α) (s : List α) :
    lastMatch? f (a :: s) = (lastMatch? f s).or (f (a :: s)) := by
  rw [lastMatch?]
  rcases lastMatch? f s with _ | b <;> rfl

lemma lastMatch?_eq_none_iff {f : List α → Option β} {s : List α} :
    lastMatch? f s = none ↔ ∀ before rest, s = before ++ rest → f rest = none := by
  induction s with
  | nil => simp [lastMatch?]
  | cons a s ih =>
    rw [lastMatch?_cons, Option.or_eq_none_iff, ih]
    constructor
    · rintro ⟨hlater, hhere⟩ before rest hsplit
      rcases List.cons_eq_append_iff.mp hsplit with ⟨-, rfl⟩ | ⟨before, -, hsplit⟩
      · exact hhere
      · exact hlater before rest hsplit
    · intro hnone
      refine ⟨fun before rest hsplit => hnone (a :: before) rest ?_, hnone [] (a :: s) rfl⟩
      rw [hsplit, List.cons_append]

/-- What is found is the value on the shortest suffix that has one. -/
lemma lastMatch?_eq_some {f : List α → Option β} {s : List α} {b : β}
    (h : lastMatch? f s = some b) :
    ∃ before rest, s = before ++ rest ∧ f rest = some b ∧
      ∀ before' rest', s = before' ++ rest' → f rest' ≠ none → before'.length ≤ before.length := by
  induction s with
  | nil =>
    refine ⟨[], [], rfl, h, fun before' rest' hsplit _ => ?_⟩
    rw [(List.append_eq_nil_iff.mp hsplit.symm).1]
  | cons a s ih =>
    rw [lastMatch?_cons, Option.or_eq_some_iff] at h
    rcases h with h | ⟨hnone, h⟩
    · obtain ⟨before, rest, rfl, hrest, hlast⟩ := ih h
      refine ⟨a :: before, rest, rfl, hrest, fun before' rest' hsplit hvalue => ?_⟩
      rcases List.cons_eq_append_iff.mp hsplit with ⟨rfl, -⟩ | ⟨front, rfl, hfront⟩
      · exact Nat.zero_le _
      · exact Nat.succ_le_succ (hlast front rest' hfront hvalue)
    · refine ⟨[], a :: s, rfl, h, fun before' rest' hsplit hvalue => ?_⟩
      rcases List.cons_eq_append_iff.mp hsplit with ⟨rfl, -⟩ | ⟨before', -, hsplit⟩
      · exact Nat.le_refl _
      · exact absurd (lastMatch?_eq_none_iff.mp hnone before' rest' hsplit) hvalue

/-! ### Words -/

variable [BEq α] [LawfulBEq α]

lemma isPrefixOf?_eq_some_iff {word s rest : List α} :
    word.isPrefixOf? s = some rest ↔ s = word ++ rest := by
  rw [List.isPrefixOf?_eq_some_iff_append_eq, eq_comm]

lemma isPrefixOf?_append (word rest : List α) : word.isPrefixOf? (word ++ rest) = some rest :=
  isPrefixOf?_eq_some_iff.mpr rfl

lemma after?_eq_some {word s rest : List α} (h : after? word s = some rest) :
    ∃ before, s = before ++ (word ++ rest) := by
  obtain ⟨before, _, rfl, hfound, -⟩ := firstMatch?_eq_some h
  exact ⟨before, by rw [isPrefixOf?_eq_some_iff.mp hfound]⟩

/-- A search for a word that something must follow is a search for the word with what follows, if
what can follow a later occurrence can also follow an earlier one. -/
lemma after?_bind {g : List α → Option β}
    (hg : ∀ before rest, (g rest).isSome = true → (g (before ++ rest)).isSome = true)
    (word s : List α) :
    (after? word s).bind g = firstMatch? (fun s => (word.isPrefixOf? s).bind g) s := by
  induction s with
  | nil => rfl
  | cons a s ih =>
    rw [firstMatch?_cons, ← ih, after?, firstMatch?_cons, ← after?]
    rcases hhere : word.isPrefixOf? (a :: s) with _ | rest
    · rfl
    · rcases hvalue : g rest with _ | b
      · rcases hlater : after? word s with _ | later
        · simp [hvalue]
        · -- the later occurrence can only be followed by what follows the first one as well
          have hsuffix : later <:+ rest := by
            obtain ⟨before, hsplit⟩ := after?_eq_some hlater
            have hrest := isPrefixOf?_eq_some_iff.mp hhere
            have hfirst : rest <:+ a :: s := ⟨word, hrest.symm⟩
            have hsecond : later <:+ a :: s :=
              ⟨a :: before ++ word, by rw [hsplit, List.append_assoc, List.cons_append]⟩
            refine List.suffix_of_suffix_length_le hsecond hfirst ?_
            have hlength := congrArg List.length hrest
            rw [hsplit] at hlength
            simp only [List.length_cons, List.length_append] at hlength
            omega
          obtain ⟨before, rfl⟩ := hsuffix
          have hnone : g later = none := by
            rw [← Option.not_isSome_iff_eq_none]
            intro hsome
            have hboth := hg before later hsome
            rw [hvalue] at hboth
            cases hboth
          simp [hvalue, hnone]
      · simp [hvalue]

lemma contains_iff {word s : List α} :
    contains word s = true ↔ ∃ before rest, s = before ++ (word ++ rest) := by
  rw [contains]
  constructor
  · intro h
    obtain ⟨rest, hrest⟩ := Option.isSome_iff_exists.mp h
    obtain ⟨before, hsplit⟩ := after?_eq_some hrest
    exact ⟨before, rest, hsplit⟩
  · rintro ⟨before, rest, rfl⟩
    rw [← Option.ne_none_iff_isSome, after?, Ne, firstMatch?_eq_none_iff]
    intro hnone
    have hvalue := hnone before (word ++ rest) rfl
    rw [isPrefixOf?_append] at hvalue
    cases hvalue

lemma contains_iff_isInfix {word s : List α} : contains word s = true ↔ word <:+: s := by
  rw [contains_iff]
  constructor
  · rintro ⟨before, rest, rfl⟩
    exact ⟨before, rest, List.append_assoc ..⟩
  · rintro ⟨before, rest, rfl⟩
    exact ⟨before, rest, List.append_assoc ..⟩

lemma after?_eq_none_iff {word s : List α} : after? word s = none ↔ ¬ word <:+: s := by
  rw [← contains_iff_isInfix, contains, Bool.not_eq_true, Option.isSome_eq_false_iff,
    Option.isNone_iff_eq_none]

/-- The first occurrence is the one with the shortest text before it. -/
lemma after?_eq_some_iff {word s rest : List α} : after? word s = some rest ↔
    ∃ before, s = before ++ (word ++ rest) ∧
      ∀ before' rest', s = before' ++ (word ++ rest') → before.length ≤ before'.length := by
  have hfirst {rest : List α} (h : after? word s = some rest) : ∃ before,
      s = before ++ (word ++ rest) ∧
        ∀ before' rest', s = before' ++ (word ++ rest') → before.length ≤ before'.length := by
    obtain ⟨before, found, rfl, hfound, hleast⟩ := firstMatch?_eq_some h
    refine ⟨before, by rw [isPrefixOf?_eq_some_iff.mp hfound], fun before' rest' hsplit => ?_⟩
    exact hleast before' _ hsplit (by rw [isPrefixOf?_append]; simp)
  refine ⟨hfirst, ?_⟩
  rintro ⟨before, hsplit, hleast⟩
  have hfound : (after? word s).isSome = true := contains_iff.mpr ⟨before, rest, hsplit⟩
  obtain ⟨rest', hrest'⟩ := Option.isSome_iff_exists.mp hfound
  obtain ⟨before', hsplit', hleast'⟩ := hfirst hrest'
  have hlength := Nat.le_antisymm (hleast before' rest' hsplit') (hleast' before rest hsplit)
  obtain ⟨-, hrests⟩ := List.append_inj (hsplit.symm.trans hsplit') hlength
  rw [hrest', List.append_cancel_left hrests]

/-! ### Before a word -/

/-- Whether a sequence splits into something, a word, and a continuation that will do. -/
def StandsBefore (word : List α) (ok : List α → Bool) (s before : List α) : Prop :=
  ∃ rest, s = before ++ (word ++ rest) ∧ ok rest = true

lemma starts_iff_standsBefore_nil {word s : List α} {ok : List α → Bool} :
    ((word.isPrefixOf? s).map ok).getD false = true ↔ StandsBefore word ok s [] := by
  rcases hrest : word.isPrefixOf? s with _ | rest
  · constructor
    · intro h
      cases h
    · rintro ⟨rest, rfl, -⟩
      rw [List.nil_append, isPrefixOf?_append] at hrest
      cases hrest
  · constructor
    · exact fun hok => ⟨rest, (isPrefixOf?_eq_some_iff.mp hrest :), hok⟩
    · rintro ⟨rest', rfl, hok⟩
      rw [List.nil_append, isPrefixOf?_append] at hrest
      cases hrest
      exact hok

omit [BEq α] [LawfulBEq α] in
lemma not_standsBefore_nil {word : List α} (hword : word ≠ []) (ok : List α → Bool)
    (before : List α) : ¬ StandsBefore word ok [] before := by
  rintro ⟨rest, hsplit, -⟩
  exact hword (List.append_eq_nil_iff.mp (List.append_eq_nil_iff.mp hsplit.symm).2).1

omit [BEq α] [LawfulBEq α] in
lemma standsBefore_cons_iff {word s before : List α} {ok : List α → Bool} {a : α} :
    StandsBefore word ok (a :: s) before ↔
      (before = [] ∧ StandsBefore word ok (a :: s) []) ∨
        ∃ front, before = a :: front ∧ StandsBefore word ok s front := by
  constructor
  · rintro ⟨rest, hsplit, hok⟩
    rcases List.cons_eq_append_iff.mp hsplit with ⟨rfl, hhere⟩ | ⟨front, rfl, hfront⟩
    · exact .inl ⟨rfl, rest, hhere.symm, hok⟩
    · exact .inr ⟨front, rfl, rest, hfront, hok⟩
  · rintro (⟨rfl, h⟩ | ⟨front, rfl, rest, rfl, hok⟩)
    · exact h
    · exact ⟨rest, rfl, hok⟩

lemma isSome_beforeFirst? {word : List α} (hword : word ≠ []) {ok : List α → Bool}
    {s before : List α} (h : StandsBefore word ok s before) :
    (beforeFirst? word ok s).isSome = true := by
  induction s generalizing before with
  | nil => exact absurd h (not_standsBefore_nil hword ok before)
  | cons a s ih =>
    rw [beforeFirst?]
    split_ifs with hhere
    · rfl
    · rcases standsBefore_cons_iff.mp h with ⟨-, hstarts⟩ | ⟨front, -, hfront⟩
      · exact absurd (starts_iff_standsBefore_nil.mpr hstarts) hhere
      · rw [Option.isSome_map]
        exact ih hfront

/-- What is found stands before the first of the occurrences that will do. -/
lemma beforeFirst?_eq_some {word : List α} {ok : List α → Bool} {s before : List α}
    (h : beforeFirst? word ok s = some before) :
    StandsBefore word ok s before ∧
      ∀ before', StandsBefore word ok s before' → before.length ≤ before'.length := by
  induction s generalizing before with
  | nil => cases h
  | cons a s ih =>
    rw [beforeFirst?] at h
    split_ifs at h with hhere
    · cases h
      exact ⟨starts_iff_standsBefore_nil.mp hhere, fun _ _ => Nat.zero_le _⟩
    · obtain ⟨front, hfound, rfl⟩ := Option.map_eq_some_iff.mp h
      obtain ⟨hfront, hfirst⟩ := ih hfound
      refine ⟨standsBefore_cons_iff.mpr (.inr ⟨front, rfl, hfront⟩), fun before' h' => ?_⟩
      rcases standsBefore_cons_iff.mp h' with ⟨-, hstarts⟩ | ⟨front', rfl, hfront'⟩
      · exact absurd (starts_iff_standsBefore_nil.mpr hstarts) hhere
      · exact Nat.succ_le_succ (hfirst front' hfront')

/-- Two texts that stand before a word and are as short as can be are the same. -/
lemma beforeFirst?_eq_some_iff {word : List α} (hword : word ≠ []) {ok : List α → Bool}
    {s before : List α} :
    beforeFirst? word ok s = some before ↔ StandsBefore word ok s before ∧
      ∀ before', StandsBefore word ok s before' → before.length ≤ before'.length := by
  refine ⟨beforeFirst?_eq_some, ?_⟩
  rintro ⟨hstands, hfirst⟩
  obtain ⟨before', hbefore'⟩ := Option.isSome_iff_exists.mp (isSome_beforeFirst? hword hstands)
  obtain ⟨hstands', hfirst'⟩ := beforeFirst?_eq_some hbefore'
  have hlength := Nat.le_antisymm (hfirst' before hstands) (hfirst before' hstands')
  obtain ⟨rest, hsplit, -⟩ := hstands
  obtain ⟨rest', hsplit', -⟩ := hstands'
  rw [hbefore', (List.append_inj (hsplit'.symm.trans hsplit) hlength).1]

lemma isSome_beforeLast? {word : List α} (hword : word ≠ []) {ok : List α → Bool}
    {s before : List α} (h : StandsBefore word ok s before) :
    (beforeLast? word ok s).isSome = true := by
  induction s generalizing before with
  | nil => exact absurd h (not_standsBefore_nil hword ok before)
  | cons a s ih =>
    rw [beforeLast?]
    rcases hlater : beforeLast? word ok s with _ | front
    · rcases standsBefore_cons_iff.mp h with ⟨-, hstarts⟩ | ⟨front, -, hfront⟩
      · simp [starts_iff_standsBefore_nil.mpr hstarts]
      · have hsome := ih hfront
        rw [hlater] at hsome
        cases hsome
    · rfl

/-- What is found stands before the last of the occurrences that will do. -/
lemma beforeLast?_eq_some {word : List α} (hword : word ≠ []) {ok : List α → Bool}
    {s before : List α} (h : beforeLast? word ok s = some before) :
    StandsBefore word ok s before ∧
      ∀ before', StandsBefore word ok s before' → before'.length ≤ before.length := by
  induction s generalizing before with
  | nil => cases h
  | cons a s ih =>
    rw [beforeLast?] at h
    rcases hlater : beforeLast? word ok s with _ | front
    · simp only [hlater] at h
      split_ifs at h with hhere
      cases h
      refine ⟨starts_iff_standsBefore_nil.mp hhere, fun before' h' => ?_⟩
      rcases standsBefore_cons_iff.mp h' with ⟨rfl, -⟩ | ⟨front', -, hfront'⟩
      · exact Nat.le_refl _
      · have hsome := isSome_beforeLast? hword hfront'
        rw [hlater] at hsome
        cases hsome
    · simp only [hlater] at h
      cases h
      obtain ⟨hfront, hlast⟩ := ih hlater
      refine ⟨standsBefore_cons_iff.mpr (.inr ⟨front, rfl, hfront⟩), fun before' h' => ?_⟩
      rcases standsBefore_cons_iff.mp h' with ⟨rfl, -⟩ | ⟨front', rfl, hfront'⟩
      · exact Nat.zero_le _
      · exact Nat.succ_le_succ (hlast front' hfront')

/-! ### Cuts -/

lemma after?_of_not_mem {a : α} {before : List α} (ha : a ∉ before) (rest : List α) :
    after? [a] (before ++ a :: rest) = some rest := by
  induction before with
  | nil => simp [after?, firstMatch?_cons, List.isPrefixOf?]
  | cons b before ih =>
    rw [List.mem_cons, not_or] at ha
    rw [List.cons_append, after?, firstMatch?_cons, ← after?, ih ha.2, List.isPrefixOf?]
    simp [ha.1]

/-- A sequence is cut where the element first occurs. -/
lemma cut?_of_not_mem {a : α} {before : List α} (ha : a ∉ before) (rest : List α) :
    cut? [a] (before ++ a :: rest) = some (before, rest) := by
  have hbefore : beforeFirst? [a] (fun _ => true) (before ++ a :: rest) = some before := by
    refine (beforeFirst?_eq_some_iff (by simp)).mpr ⟨⟨rest, rfl, rfl⟩, ?_⟩
    rintro before' ⟨rest', hsplit, -⟩
    exact (prefix_of_not_mem hsplit ha).length_le
  rw [cut?, hbefore, after?_of_not_mem ha]

lemma cut?_eq_none_iff {a : α} {s : List α} : cut? [a] s = none ↔ a ∉ s := by
  constructor
  · intro hnone hmem
    obtain ⟨before, rest, rfl, ha⟩ := List.eq_append_cons_of_mem hmem
    rw [cut?_of_not_mem ha] at hnone
    cases hnone
  · intro ha
    have hafter : after? [a] s = none := by
      rw [← Option.not_isSome_iff_eq_none, ← contains, contains_iff]
      rintro ⟨before, rest, rfl⟩
      simp at ha
    rw [cut?, hafter]
    rcases beforeFirst? [a] (fun _ => true) s with _ | before <;> rfl

lemma cut?_eq_some_iff {a : α} {s before rest : List α} :
    cut? [a] s = some (before, rest) ↔ s = before ++ a :: rest ∧ a ∉ before := by
  constructor
  · intro h
    have hmem : a ∈ s := by
      by_contra hmem
      rw [cut?_eq_none_iff.mpr hmem] at h
      cases h
    obtain ⟨before', rest', rfl, ha⟩ := List.eq_append_cons_of_mem hmem
    rw [cut?_of_not_mem ha] at h
    cases h
    exact ⟨rfl, ha⟩
  · rintro ⟨rfl, ha⟩
    exact cut?_of_not_mem ha rest

lemma afterLast?_eq_none_iff {a : α} {s : List α} : afterLast? [a] s = none ↔ a ∉ s := by
  rw [afterLast?, lastMatch?_eq_none_iff]
  constructor
  · intro hnone ha
    obtain ⟨before, rest, rfl⟩ := List.append_of_mem ha
    have hfound := hnone before (a :: rest) rfl
    rw [List.isPrefixOf?, if_pos (beq_self_eq_true a)] at hfound
    cases hfound
  · rintro ha before rest rfl
    rcases hrest : [a].isPrefixOf? rest with _ | later
    · rfl
    · rw [isPrefixOf?_eq_some_iff.mp hrest] at ha
      simp at ha

lemma afterLast?_of_not_mem {a : α} {rest : List α} (ha : a ∉ rest) (before : List α) :
    afterLast? [a] (before ++ a :: rest) = some rest := by
  induction before with
  | nil =>
    rw [List.nil_append, afterLast?, lastMatch?_cons, ← afterLast?, afterLast?_eq_none_iff.mpr ha]
    exact isPrefixOf?_append [a] rest
  | cons b before ih =>
    rw [List.cons_append, afterLast?, lastMatch?_cons, ← afterLast?, ih]
    rfl

lemma splitOn_of_not_mem {a : α} {before : List α} (ha : a ∉ before) (rest : List α) :
    (before ++ a :: rest).splitOn a = before :: rest.splitOn a :=
  List.splitOnP_append_cons_of_forall_mem
    (fun b hb => by simpa using fun heq : b = a => ha (heq ▸ hb)) a (by simp) rest

lemma stretches_cons (c : Char) (s : List Char) :
    stretches (c :: s) =
      if c = '\n' then [] :: stretches s else (stretches s).modifyHead (c :: ·) := by
  rw [stretches, List.splitOn, List.splitOnP_cons_eq_if_modifyHead]
  simp [stretches, List.splitOn]

/-- The first stretch is what stands before the first line feed. -/
lemma exists_stretches_eq (s : List Char) :
    ∃ others, stretches s = s.takeWhile (· ≠ '\n') :: others := by
  induction s with
  | nil => exact ⟨[], rfl⟩
  | cons c s ih =>
    obtain ⟨others, hs⟩ := ih
    rw [stretches_cons]
    by_cases hc : c = '\n'
    · exact ⟨stretches s, by simp [hc]⟩
    · exact ⟨others, by simp [hc, hs]⟩

/-- Searching the stretches in order is searching the text for what lies in one stretch. -/
lemma findSome?_stretches (f : List Char → Option β) (s : List Char) :
    (stretches s).findSome? (firstMatch? f) =
      firstMatch? (fun s => f (s.takeWhile (· ≠ '\n'))) s := by
  induction s with
  | nil => simp [stretches, List.splitOn, firstMatch?]
  | cons c s ih =>
    rw [firstMatch?_cons, ← ih, stretches_cons]
    by_cases hc : c = '\n'
    · rw [if_pos hc, List.findSome?_cons, hc]
      rcases hempty : f [] with _ | b <;> simp [firstMatch?, hempty]
    · obtain ⟨others, hs⟩ := exists_stretches_eq s
      have htake : (c :: s).takeWhile (· ≠ '\n') = c :: s.takeWhile (· ≠ '\n') :=
        List.takeWhile_cons_of_pos (by simpa using hc)
      rw [if_neg hc, hs, List.modifyHead_cons, List.findSome?_cons, List.findSome?_cons,
        firstMatch?_cons, htake]
      rcases f (c :: s.takeWhile (· ≠ '\n')) with _ | b <;> rfl

end NodeWatch.Text
