import Mathlib.Data.List.TakeWhile
import NodeWatch.Proofs.Text.Runs
import NodeWatch.Proofs.Text.Search

/-!
# Words and blanks

Texts that are written word by word with blanks after each word. Splitting them at white space gives
the words back, and a marker that is a word of its own is found where no word before it is the same.
-/

namespace NodeWatch.Text

/-- Whether a text has no white space. -/
def isSolid (w : List Char) : Bool :=
  w.all fun c => !isSpace c

lemma isSolid_iff {w : List Char} : isSolid w = true ↔ ∀ c ∈ w, isSpace c = false := by
  simp [isSolid]

@[simp] lemma isSolid_append (v w : List Char) : isSolid (v ++ w) = (isSolid v && isSolid w) :=
  List.all_append

@[simp] lemma isSolid_cons (c : Char) (w : List Char) :
    isSolid (c :: w) = (!isSpace c && isSolid w) :=
  List.all_cons

/-- Some characters that are not white space. -/
def IsWord (w : List Char) : Prop :=
  w ≠ [] ∧ isSolid w = true

/-- Words, each with one blank and as many more as given after it. -/
def spread (words : List (List Char × Nat)) : List Char :=
  words.flatMap fun word => word.1 ++ List.replicate (word.2 + 1) ' '

lemma spread_cons (word : List Char) (blanks : Nat) (words : List (List Char × Nat)) :
    spread ((word, blanks) :: words) =
      word ++ (List.replicate (blanks + 1) ' ' ++ spread words) := by
  rw [spread, List.flatMap_cons, List.append_assoc, ← spread]

lemma IsWord.blank_not_mem {w : List Char} (h : IsWord w) : ' ' ∉ w :=
  fun hmem => absurd (isSolid_iff.mp h.2 _ hmem) (by decide)

lemma fields_blank (s : List Char) : fields (' ' :: s) = fields s :=
  runs_cons_of_neg (by decide) s

lemma fields_replicate (blanks : Nat) (s : List Char) :
    fields (List.replicate blanks ' ' ++ s) = fields s := by
  refine runs_gap_append (fun c hc => ?_) s
  rw [List.eq_of_mem_replicate hc]
  rfl

lemma fields_word_append {w : List Char} (hw : IsWord w) (s : List Char) :
    fields (w ++ ' ' :: s) = w :: fields s := by
  rw [← fields_blank s]
  exact runs_append_of_pos hw.1 (fun c hc => by simp [isSolid_iff.mp hw.2 c hc])
    fun c hc => by cases hc; rfl

/-- The fields of a spread text are its words. -/
lemma fields_spread {words : List (List Char × Nat)} (hwords : ∀ word ∈ words, IsWord word.1)
    (s : List Char) : fields (spread words ++ s) = words.map Prod.fst ++ fields s := by
  induction words with
  | nil => rfl
  | cons word words ih =>
    obtain ⟨hword, hrest⟩ := List.forall_mem_cons.mp hwords
    obtain ⟨word, blanks⟩ := word
    rw [spread_cons, List.replicate_succ, List.append_assoc, List.append_assoc, List.cons_append,
      fields_word_append hword, fields_replicate, ih hrest]
    rfl

section

variable {marker : List Char}

/-- A text without blanks has no place where a marker can start. -/
lemma after?_append_of_not_mem {w : List Char} (hw : ' ' ∉ w) (s : List Char) :
    after? (' ' :: marker) (w ++ s) = after? (' ' :: marker) s := by
  induction w with
  | nil => rfl
  | cons c w ih =>
    rw [List.mem_cons, not_or] at hw
    rw [List.cons_append, after?, firstMatch?_cons, ← after?, ih hw.2, List.isPrefixOf?]
    simp [hw.1]

lemma after?_blank {s : List Char} (hs : ¬ marker <+: s) :
    after? (' ' :: marker) (' ' :: s) = after? (' ' :: marker) s := by
  rw [after?, firstMatch?_cons, ← after?]
  rcases hrest : (' ' :: marker).isPrefixOf? (' ' :: s) with _ | rest
  · rfl
  · have hsplit := isPrefixOf?_eq_some_iff.mp hrest
    exact absurd ⟨rest, ((List.cons_eq_cons.mp hsplit).2).symm⟩ hs

/-- Of several blanks, only the last one can start a marker. -/
lemma after?_replicate (hmarker : marker.head? ≠ some ' ') (hne : marker ≠ []) (blanks : Nat)
    (s : List Char) :
    after? (' ' :: marker) (List.replicate (blanks + 1) ' ' ++ s) =
      after? (' ' :: marker) (' ' :: s) := by
  induction blanks with
  | zero => rfl
  | succ blanks ih =>
    rw [List.replicate_succ, List.cons_append, after?_blank, ih]
    rintro ⟨rest, hrest⟩
    obtain ⟨c, marker, rfl⟩ := List.exists_cons_of_ne_nil hne
    rw [List.replicate_succ, List.cons_append, List.cons_append] at hrest
    exact hmarker (congrArg some (List.cons_eq_cons.mp hrest).1)

end

/-- Two words that blanks follow are the same if one text starts with the other. -/
lemma eq_of_starts_blank {v w s : List Char} (hv : ' ' ∉ v) (hw : ' ' ∉ w)
    (h : w ++ [' '] <+: v ++ ' ' :: s) : v = w := by
  obtain ⟨rest, hrest⟩ := h
  have htake := congrArg (List.takeWhile (· ≠ ' ')) hrest
  have hall : ∀ {u : List Char}, ' ' ∉ u → ∀ c ∈ u, decide (c ≠ ' ') = true :=
    fun hu c hc => decide_eq_true fun heq => hu (heq ▸ hc)
  rw [List.append_assoc, List.takeWhile_append_of_pos (hall hw),
    List.takeWhile_append_of_pos (hall hv)] at htake
  simpa using htake.symm

section

variable {marker : List Char} {words : List (List Char × Nat)}

lemma IsWord.head?_append_blank (hmarker : IsWord marker) :
    (marker ++ [' ']).head? ≠ some ' ' := by
  obtain ⟨c, rest, rfl⟩ := List.exists_cons_of_ne_nil hmarker.1
  intro h
  cases h
  exact hmarker.blank_not_mem (List.mem_cons_self ..)

lemma after?_blank_spread (hmarker : IsWord marker)
    (hwords : ∀ word ∈ words, ' ' ∉ word.1 ∧ word.1 ≠ marker) (s : List Char) :
    after? (' ' :: (marker ++ [' '])) (' ' :: (spread words ++ (marker ++ ' ' :: s))) = some s := by
  induction words with
  | nil =>
    have hhere : (' ' :: (marker ++ [' '])).isPrefixOf? (' ' :: (marker ++ ' ' :: s)) = some s := by
      rw [isPrefixOf?_eq_some_iff]
      simp
    show after? _ (' ' :: (marker ++ ' ' :: s)) = some s
    rw [after?, firstMatch?_cons, hhere]
    rfl
  | cons word words ih =>
    obtain ⟨⟨hword, hother⟩, hrest⟩ := List.forall_mem_cons.mp hwords
    obtain ⟨word, blanks⟩ := word
    rw [spread_cons, List.append_assoc, List.append_assoc, after?_blank,
      after?_append_of_not_mem hword, after?_replicate hmarker.head?_append_blank (by simp),
      ih hrest]
    intro hprefix
    rw [List.replicate_succ, List.cons_append] at hprefix
    exact hother (eq_of_starts_blank hword hmarker.blank_not_mem hprefix)

/-- A marker that is a word of its own is found after words that are not the marker. -/
lemma after?_spread (hmarker : IsWord marker) (hne : words ≠ [])
    (hwords : ∀ word ∈ words, ' ' ∉ word.1 ∧ word.1 ≠ marker) (s : List Char) :
    after? (' ' :: (marker ++ [' '])) (spread words ++ (marker ++ ' ' :: s)) = some s := by
  obtain ⟨⟨word, blanks⟩, words, rfl⟩ := List.exists_cons_of_ne_nil hne
  obtain ⟨⟨hword, -⟩, hrest⟩ := List.forall_mem_cons.mp hwords
  rw [spread_cons, List.append_assoc, List.append_assoc, after?_append_of_not_mem hword,
    after?_replicate hmarker.head?_append_blank (by simp), after?_blank_spread hmarker hrest]

end

/-- What is left starts with the first character that is not white space. -/
lemma head?_trimStart (s : List Char) : (trimStart s).head? = s.find? fun c => !isSpace c :=
  (List.find?_not_eq_head?_dropWhile isSpace s).symm

/-- What is cut off at the end is white space, -/
lemma exists_trimEnd_eq (s : List Char) :
    ∃ tail, s = trimEnd s ++ tail ∧ ∀ c ∈ tail, isSpace c = true := by
  refine ⟨(s.reverse.takeWhile isSpace).reverse, ?_, fun c hc => ?_⟩
  · rw [trimEnd, ← List.reverse_append, List.takeWhile_append_dropWhile, List.reverse_reverse]
  · exact List.all_eq_true.mp List.all_takeWhile c (List.mem_reverse.mp hc)

/-- and all of it: what is left does not end in white space. -/
lemma isSpace_of_getLast?_trimEnd {s : List Char} {c : Char} (h : (trimEnd s).getLast? = some c) :
    isSpace c = false := by
  rw [trimEnd, List.getLast?_reverse] at h
  simpa [h] using List.head?_dropWhile_not isSpace s.reverse

/-- What is cut off by trimming is white space. -/
lemma exists_trim_eq (s : List Char) : ∃ lead tail, s = lead ++ (trim s ++ tail) ∧
    (∀ c ∈ lead, isSpace c = true) ∧ ∀ c ∈ tail, isSpace c = true := by
  obtain ⟨tail, hend, htail⟩ := exists_trimEnd_eq (trimStart s)
  refine ⟨s.takeWhile isSpace, tail, ?_, List.all_eq_true.mp List.all_takeWhile, htail⟩
  rw [trim, ← hend, trimStart, List.takeWhile_append_dropWhile]

/-- White space at the ends makes no field. -/
lemma fields_trim (s : List Char) : fields (trim s) = fields s := by
  obtain ⟨lead, tail, hsplit, hlead, htail⟩ := exists_trim_eq s
  conv_rhs => rw [hsplit]
  rw [fields, fields, runs_gap_append (fun c hc => by simp [hlead c hc]),
    runs_append_gap fun c hc => by simp [htail c hc]]

/-- A text between characters that are not white space stays as it is. -/
lemma trim_between {a b : Char} (ha : isSpace a = false) (hb : isSpace b = false) (s : List Char) :
    trim (a :: (s ++ [b])) = a :: (s ++ [b]) := by
  rw [trim, trimStart, List.dropWhile_cons_of_neg (by simp [ha]), trimEnd, ← List.cons_append,
    List.reverse_append, List.reverse_singleton, List.singleton_append,
    List.dropWhile_cons_of_neg (by simp [hb]), ← List.singleton_append, List.reverse_append,
    List.reverse_reverse, List.reverse_singleton]

lemma trimEnd_append_cons {c : Char} (hc : isSpace c = false) (s rest : List Char) :
    trimEnd (s ++ c :: rest) = s ++ c :: trimEnd rest := by
  rw [trimEnd, List.reverse_append, List.reverse_cons, List.append_assoc, List.dropWhile_append]
  split_ifs with h
  · have hrest : trimEnd rest = [] := by
      rw [trimEnd, List.isEmpty_iff.mp h, List.reverse_nil]
    rw [hrest, List.singleton_append, List.dropWhile_cons_of_neg (by simp [hc])]
    simp
  · simp [trimEnd]

/-- Behind a word that does not end in white space, white space is cut off as if nothing came before
it. -/
lemma trimEnd_append_word (word : List Char) {c : Char} (hlast : word.getLast? = some c)
    (hc : isSpace c = false) (front rest : List Char) :
    trimEnd (front ++ (word ++ rest)) = front ++ (word ++ trimEnd rest) := by
  obtain ⟨word, rfl⟩ := List.getLast?_eq_some_iff.mp hlast
  have hassoc (rest : List Char) : front ++ (word ++ [c] ++ rest) = front ++ word ++ c :: rest := by
    simp
  rw [hassoc, hassoc, trimEnd_append_cons hc]

end NodeWatch.Text
